import Reassembly.Packet
import Reassembly.SessionKey

/-!
# Conversations

A conversation is a client and a server that send each other packets.  Its
requests are filed under one key, its responses under another.
-/

set_option autoImplicit false

namespace Reassembly

structure Conversation where
  client : Endpoint
  server : Endpoint
  deriving DecidableEq, Repr

namespace Conversation

def requestKey (conversation : Conversation) : SessionKey :=
  SessionKey.ofClient conversation.client

def responseKey (conversation : Conversation) : SessionKey :=
  SessionKey.ofServer conversation.server conversation.client

inductive Turn where
  | request (flags : Flags) (seq : UInt32)
  | response (flags : Flags) (seq : UInt32)
  | requestSyn
  | requestFin
  | responseSyn
  | responseFin
  deriving DecidableEq, Repr

def request (conversation : Conversation) (flags : Flags) (seq : UInt32) (payload : Bytes) :
    Packet :=
  { Packet.between conversation.client conversation.server with
    flags := flags, seq := seq, payload := payload }

def response (conversation : Conversation) (flags : Flags) (seq : UInt32) (payload : Bytes) :
    Packet :=
  { Packet.between conversation.server conversation.client with
    flags := flags, seq := seq, payload := payload }

def packet (conversation : Conversation) (payload : Bytes) : Turn → Packet
  | .request flags seq => conversation.request flags seq payload
  | .response flags seq => conversation.response flags seq payload
  | .requestSyn => conversation.request .opening 0 payload
  | .requestFin => conversation.request .closing 0 payload
  | .responseSyn => conversation.response .openingReply 0 payload
  | .responseFin => conversation.response .closing 0 payload

end Conversation

end Reassembly
