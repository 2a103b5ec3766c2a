import Reassembly.Message
import Reassembly.Text.Quoted

/-!
# Hooks

What the owner of a pool may plug in: a rule for opening messages, a rule for
completing them, and a listener for diagnostics.  A hook that is the owner's code
may fail; a failure carries a text or nothing that can be read.
-/

set_option autoImplicit false

namespace Reassembly

/-- What a failing piece of the owner's code left behind. -/
inductive Fault where
  | text (message : String)
  | unreadable
  deriving DecidableEq, Repr

namespace Fault

def message? : Fault → Option String
  | .text message => some message
  | .unreadable => none

def display : Fault → String
  | .text message => message
  | .unreadable => "non-string panic payload"

def inspected : Fault → String
  | .text message => s!"HandlerPanic(Some({Text.quoted message}))"
  | .unreadable => "HandlerPanic(None)"

end Fault

inductive Severity where
  | high
  | medium
  | low
  deriving DecidableEq, Repr

inductive LogLevel where
  | error
  | warn
  | debug
  | trace
  deriving DecidableEq, Repr

def LogLevel.name : LogLevel → String
  | .error => "ERROR"
  | .warn => "WARN"
  | .debug => "DEBUG"
  | .trace => "TRACE"

namespace Severity

def name : Severity → String
  | .high => "High"
  | .medium => "Medium"
  | .low => "Low"

/-- The number of a severity; a lower one is more urgent. -/
def level : Severity → Nat
  | .high => 4
  | .medium => 5
  | .low => 6

def logLevel : Severity → LogLevel
  | .high => .warn
  | .medium => .debug
  | .low => .trace

def ofLevel? : Nat → Option Severity
  | 4 => some .high
  | 5 => some .medium
  | 6 => some .low
  | _ => none

end Severity

/-- Decides whether a packet that belongs to no message opens one. -/
abbrev StartDetector := Packet → Option Direction

/-- Decides whether a message is complete, or fails. -/
abbrev EndDetector := Message → Except Fault Bool

/-- What a listener does with what it is told.  It runs apart from the pool, so a
listener that fails is one that keeps nothing. -/
inductive Debugger where
  | recording
  | forgetful
  deriving DecidableEq, Repr

structure Hooks where
  start : Option StartDetector
  finish : Option EndDetector
  debugger : Option Debugger

namespace Hooks

def unset : Hooks := ⟨none, none, none⟩

/-- The opening rule where none is plugged in: a SYN opens a message, from the
client if it stands alone and from the server if it also acknowledges. -/
def bySyn : StartDetector := fun packet =>
  if packet.flags.syn then
    some (if packet.flags.ack then .outgoing else .incoming)
  else none

def opens (hooks : Hooks) (packet : Packet) : Option Direction :=
  (hooks.start.getD bySyn) packet

def completes (hooks : Hooks) (message : Message) : Except Fault Bool :=
  match hooks.finish with
  | none => .ok false
  | some rule => rule message

def hears (hooks : Hooks) (severity : Severity) (text : String) : List (Severity × String) :=
  match hooks.debugger with
  | some .recording => [(severity, text)]
  | _ => []

def text (hooks : Hooks) : String :=
  s!"PoolHooks \x7b start: {hooks.start.isSome}, end: {hooks.finish.isSome}, " ++
    s!"debug: {hooks.debugger.isSome} \x7d"

/-- Shows packets to both rules in turn, while they gather in one message: for each
packet, whether it would open a message, and whether it completes the one at hand. -/
def rehearse (hooks : Hooks) : Message → List Packet →
    Except Fault (List (Option Direction × Bool))
  | _, [] => .ok []
  | message, packet :: rest =>
      let grown := message.append packet
      match hooks.completes grown with
      | .error fault => .error fault
      | .ok complete =>
          match rehearse hooks grown rest with
          | .error fault => .error fault
          | .ok results => .ok ((hooks.opens packet, complete) :: results)

end Hooks

end Reassembly
