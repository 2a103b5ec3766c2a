import Reassembly.Counters
import Reassembly.Hooks
import Reassembly.Packet.Decode
import Reassembly.Duration

/-!
# What a pool does besides filing messages

Everything that a pool lets the outside see is one list of effects in the order
in which they happen: counts, diagnostics, entries of the log, and finished
messages that are delivered.  A diagnostic is also an entry of the log.
-/

set_option autoImplicit false

namespace Reassembly

inductive Diagnostic where
  | undecodable (size : Nat) (error : DecodeError)
  | reset (src dst : Endpoint) (time : Timestamp)
  | truncated (key : SessionKey) (maxSize : Nat)
  | timedOut (key : SessionKey) (expiry : Duration) (length : Nat)
  deriving DecidableEq

namespace Diagnostic

def severity : Diagnostic → Severity
  | .undecodable .. => .high
  | .reset .. => .high
  | .truncated .. => .medium
  | .timedOut .. => .low

def text : Diagnostic → String
  | .undecodable size error => s!"error decoding packet({size}Bytes):{error.message}"
  | .reset src dst time =>
      s!"RST flag from {src.text} to {dst.text} at " ++
        s!"SystemTime \x7b tv_sec: {time.secs}, tv_nsec: {time.nanos} \x7d"
  | .truncated key maxSize => s!"message {key} truncated at {maxSize} bytes"
  | .timedOut key expiry length =>
      s!"message {key} timed out after {expiry.text} with {length} bytes"

end Diagnostic

inductive Notice where
  | dispatching (key : SessionKey) (termination : Termination) (length packets : Nat)
  | handlerFailed (key : SessionKey) (fault : Fault)
  /-- A message ended that no watcher waits for, and is lost. -/
  | unwatched (key : SessionKey)
  deriving DecidableEq

namespace Notice

def level : Notice → LogLevel
  | .dispatching .. => .debug
  | .handlerFailed .. => .error
  | .unwatched .. => .warn

def text : Notice → String
  | .dispatching key termination length packets =>
      s!"dispatching message {key} ({termination.name}, {length} bytes, {packets} packets)"
  | .handlerFailed key fault =>
      s!"message handler panicked panic={fault.display} key={Text.quoted key}"
  | .unwatched key =>
      s!"dispatch watcher for {key} exited before hand-off; message dropped"

end Notice

/-- A finished message on its way to the handler. -/
structure Delivery where
  key : SessionKey
  message : Message
  termination : Termination
  time : Nat
  deriving DecidableEq

inductive Effect where
  | count (tick : Tick)
  | say (diagnostic : Diagnostic)
  | note (notice : Notice)
  | deliver (delivery : Delivery)
  deriving DecidableEq

namespace Effect

def tick? : Effect → Option Tick
  | .count tick => some tick
  | _ => none

def diagnostic? : Effect → Option Diagnostic
  | .say diagnostic => some diagnostic
  | _ => none

def delivery? : Effect → Option Delivery
  | .deliver delivery => some delivery
  | _ => none

def entry? : Effect → Option (LogLevel × String)
  | .say diagnostic => some (diagnostic.severity.logLevel, diagnostic.text)
  | .note notice => some (notice.level, notice.text)
  | _ => none

end Effect

end Reassembly
