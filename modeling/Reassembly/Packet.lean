import Reassembly.Endpoint

/-!
# Packets

A packet is one TCP segment with what the rest of the library needs of it: its
endpoints, its sequence number, four control flags, its payload, the time of its
capture, and how many bytes the capture lost before it.  A capture is the
undecoded form, a datagram from its IP header on.
-/

set_option autoImplicit false

namespace Reassembly

/-- A time: whole seconds since 1970, which may be negative, and nanoseconds
counted forward from there. -/
structure Timestamp where
  secs : Int
  nanos : Nat
  deriving DecidableEq, Repr

def Timestamp.epoch : Timestamp := ⟨0, 0⟩

def Timestamp.beforeEpoch (time : Timestamp) : Bool :=
  decide (time.secs < 0)

structure Flags where
  syn : Bool := false
  ack : Bool := false
  fin : Bool := false
  rst : Bool := false
  deriving DecidableEq, Repr

namespace Flags

def opening : Flags := { syn := true }
def openingReply : Flags := { syn := true, ack := true }
def acknowledging : Flags := { ack := true }
def closing : Flags := { ack := true, fin := true }
def resetting : Flags := { rst := true }

/-- The flags of a TCP header's flag byte: bits 0, 1, 2 and 4. -/
def ofByte (byte : UInt8) : Flags where
  fin := byte.toNat.testBit 0
  syn := byte.toNat.testBit 1
  rst := byte.toNat.testBit 2
  ack := byte.toNat.testBit 4

def toByte (flags : Flags) : UInt8 :=
  (if flags.fin then 1 else 0) + (if flags.syn then 2 else 0) +
    (if flags.rst then 4 else 0) + (if flags.ack then 16 else 0)

theorem ofByte_toByte (flags : Flags) : ofByte flags.toByte = flags := by
  obtain ⟨syn, ack, fin, rst⟩ := flags
  cases syn <;> cases ack <;> cases fin <;> cases rst <;> decide

end Flags

structure Capture where
  data : Bytes
  timestamp : Timestamp
  lost : UInt32
  deriving DecidableEq, Repr

structure Packet where
  seq : UInt32
  flags : Flags
  payload : Bytes
  timestamp : Timestamp
  lost : UInt32
  src : Endpoint
  dst : Endpoint
  version : UInt8
  deriving DecidableEq, Repr

def Endpoint.version (endpoint : Endpoint) : UInt8 :=
  match endpoint.family with
  | .v4 => 4
  | .v6 => 6

/-- An empty segment between two endpoints, of the sender's family. -/
def Packet.between (src dst : Endpoint) : Packet where
  seq := 0
  flags := {}
  payload := []
  timestamp := .epoch
  lost := 0
  src := src
  dst := dst
  version := src.version

end Reassembly
