import Reassembly.Hooks

/-!
# Rules given as data

Opening rules, completion rules and handlers that are described by a test and its
argument instead of by a function.  Each description has its meaning as a hook.
-/

set_option autoImplicit false

namespace Reassembly

def Bytes.endsWith (bytes ending : Bytes) : Bool :=
  decide (ending.length ≤ bytes.length) &&
    (bytes.drop (bytes.length - ending.length) == ending)

def Bytes.beginsWith (bytes beginning : Bytes) : Bool :=
  beginning.isPrefixOf bytes

inductive PacketTest where
  | always
  | payloadBegins (bytes : Bytes)
  | flagsAre (flags : Flags)
  | receiverPort (port : Nat)
  deriving DecidableEq, Repr

def PacketTest.holds : PacketTest → Packet → Bool
  | .always, _ => true
  | .payloadBegins bytes, packet => Bytes.beginsWith packet.payload bytes
  | .flagsAre flags, packet => decide (packet.flags = flags)
  | .receiverPort port, packet => decide (packet.dst.port.toNat = port)

/-- An opening rule: one answer where the test holds, another where it does not. -/
structure StartRule where
  test : PacketTest
  held : Option Direction
  failed : Option Direction
  deriving DecidableEq, Repr

def StartRule.detector (rule : StartRule) : StartDetector := fun packet =>
  if rule.test.holds packet then rule.held else rule.failed

inductive EndRule where
  | always
  | never
  | dataEnds (bytes : Bytes)
  | packetCount (least : Nat)
  | length (least : Nat)
  | lostData (least : Nat)
  | outgoing
  | truncated
  | failsWhereDataEnds (bytes : Bytes)
  deriving DecidableEq, Repr

def EndRule.detector : EndRule → EndDetector
  | .always, _ => .ok true
  | .never, _ => .ok false
  | .dataEnds bytes, message => .ok (Bytes.endsWith message.data bytes)
  | .packetCount least, message => .ok (decide (least ≤ message.packets.length))
  | .length least, message => .ok (decide (least ≤ message.length))
  | .lostData least, message => .ok (decide (least ≤ message.stats.lostData))
  | .outgoing, message => .ok (decide (message.direction = .outgoing))
  | .truncated, message => .ok message.stats.truncated
  | .failsWhereDataEnds bytes, message =>
      if Bytes.endsWith message.data bytes then .error (.text "end detector panicked")
      else .ok false

/-- A consumer of finished messages; it may fail on some of them. -/
abbrev Handler := Message → Option Fault

structure HandlerRule where
  failsOn : Bytes
  fault : Fault
  deriving DecidableEq, Repr

def HandlerRule.handler (rule : HandlerRule) : Handler := fun message =>
  if ¬rule.failsOn.isEmpty ∧ Bytes.beginsWith message.data rule.failsOn then some rule.fault
  else none

def Handler.keeping : Handler := fun _ => none

end Reassembly
