import Reassembly.Endpoint.Text

/-!
# Session keys

A message in progress is filed under a text.  A message from a client is filed
under the client's endpoint; a message from a server under the server's and the
client's endpoint, joined by an equals sign.  Whoever sends a packet, its
message is found under the sender's endpoint or under sender and receiver.
-/

set_option autoImplicit false

namespace Reassembly

inductive Direction where
  | incoming
  | outgoing
  deriving DecidableEq, Repr

def Direction.name : Direction → String
  | .incoming => "incoming"
  | .outgoing => "outgoing"

def Direction.label : Direction → String
  | .incoming => "Incoming"
  | .outgoing => "Outgoing"

abbrev SessionKey := String

namespace SessionKey

def ofClient (client : Endpoint) : SessionKey :=
  client.text

def ofServer (server client : Endpoint) : SessionKey :=
  server.text ++ "=" ++ client.text

def of (direction : Direction) (src dst : Endpoint) : SessionKey :=
  match direction with
  | .incoming => ofClient src
  | .outgoing => ofServer src dst

end SessionKey

end Reassembly
