import Reassembly.Packet.Decode

/-!
# The format of a datagram

The format is said here by the positions of bytes alone: where each field stands, which lengths
agree with each other, what a packet says of the data it was read from, and which rule is
reported when data breaks several.  Every position of every data can be asked for its byte, and
behind the end it is zero; data with both headers is not asked there.
-/

set_option autoImplicit false

namespace Reassembly

namespace Bytes

/-- The byte at a position as a number, zero behind the end. -/
def byteAt (data : Bytes) (position : Nat) : Nat :=
  (data.getD position 0).toNat

def wordAt (data : Bytes) (position : Nat) : Nat :=
  256 * data.byteAt position + data.byteAt (position + 1)

def longAt (data : Bytes) (position : Nat) : Nat :=
  65536 * data.wordAt position + data.wordAt (position + 2)

def slice (data : Bytes) (start stop : Nat) : Bytes :=
  (data.take stop).drop start

def version (data : Bytes) : Nat :=
  data.byteAt 0 / 16

def headerWords (data : Bytes) : Nat :=
  data.byteAt 0 % 16

def offsetWords (data : Bytes) (start : Nat) : Nat :=
  data.byteAt (start + 12) / 16

/-! ## Data with both headers -/

/-- Data that begins with a sound IP header and carries TCP: the header's family, where the
segment behind it starts, and where the segment ends. -/
inductive HasIpHeader (data : Bytes) : Family → Nat → Nat → Prop
  | v4 (version : data.version = 4) (fixed : 20 ≤ data.length) (least : 5 ≤ data.headerWords)
      (whole : 4 * data.headerWords ≤ data.length) (transport : data.byteAt 9 = tcpProtocol)
      (claimed : data.wordAt 2 = 0 ∨ 4 * data.headerWords ≤ data.wordAt 2) :
      HasIpHeader data .v4 (4 * data.headerWords)
        (if data.wordAt 2 = 0 then data.length else min data.length (data.wordAt 2))
  | v6 (version : data.version = 6) (fixed : 40 ≤ data.length)
      (transport : data.byteAt 6 = tcpProtocol) :
      HasIpHeader data .v6 40 (min data.length (40 + data.wordAt 4))

structure HasHeaders (data : Bytes) (family : Family) (start stop : Nat) : Prop where
  ip : data.HasIpHeader family start stop
  fixed : 20 ≤ stop - start
  least : 5 ≤ data.offsetWords start
  whole : 4 * data.offsetWords start ≤ stop - start

end Bytes

/-! ## What a packet says of its data -/

def Family.srcPlace : Family → Nat
  | .v4 => 12
  | .v6 => 8

def Family.dstPlace : Family → Nat
  | .v4 => 16
  | .v6 => 24

inductive Bytes.HasEndpoint (data : Bytes) (host port : Nat) : Family → Endpoint → Prop
  | v4 (address : Ipv4) (number : UInt16) (bytes : address.bytes = data.slice host (host + 4))
      (digits : number.toNat = data.wordAt port) :
      HasEndpoint data host port .v4 (.v4 address number)
  | v6 (address : Ipv6) (number : UInt16) (bytes : address.bytes = data.slice host (host + 16))
      (digits : number.toNat = data.wordAt port) :
      HasEndpoint data host port .v6 (.v6 address 0 0 number)

/-- A packet that says what stands in a capture, whose segment starts and ends at two
positions. -/
structure Capture.Carries (capture : Capture) (family : Family) (start stop : Nat)
    (packet : Packet) : Prop where
  version : packet.version.toNat = family.number
  src : capture.data.HasEndpoint family.srcPlace start family packet.src
  dst : capture.data.HasEndpoint family.dstPlace (start + 2) family packet.dst
  seq : packet.seq.toNat = capture.data.longAt (start + 4)
  fin : packet.flags.fin = (capture.data.byteAt (start + 13)).testBit 0
  syn : packet.flags.syn = (capture.data.byteAt (start + 13)).testBit 1
  rst : packet.flags.rst = (capture.data.byteAt (start + 13)).testBit 2
  ack : packet.flags.ack = (capture.data.byteAt (start + 13)).testBit 4
  payload : packet.payload =
    capture.data.slice (start + 4 * capture.data.offsetWords start) stop
  timestamp : packet.timestamp = capture.timestamp
  lost : packet.lost = capture.lost

/-! ## What is reported of other data -/

structure FormatRule where
  broken : Bool
  report : DecodeError

namespace Bytes

def protocol (data : Bytes) : Nat :=
  if data.version = 4 then data.byteAt 9 else data.byteAt 6

def segmentStart (data : Bytes) : Nat :=
  if data.version = 4 then 4 * data.headerWords else 40

/-- Where the segment ends, as far as it was captured. -/
def segmentStop (data : Bytes) : Nat :=
  if data.version = 4 then
    if data.wordAt 2 = 0 then data.length else min data.length (data.wordAt 2)
  else min data.length (40 + data.wordAt 4)

def ipRules (data : Bytes) : List FormatRule :=
  [⟨decide (data.length = 0), .empty⟩,
    ⟨decide (data.version ≠ 4 ∧ data.version ≠ 6), .unsupportedVersion data.version⟩,
    ⟨decide (data.version = 4 ∧ data.length < 20), .malformedIp (.short .v4 20 data.length)⟩,
    ⟨decide (data.version = 4 ∧ data.headerWords < 5),
      .malformedIp (.headerLength data.headerWords)⟩,
    ⟨decide (data.version = 4 ∧ data.length < 4 * data.headerWords),
      .malformedIp (.short .v4 (4 * data.headerWords) data.length)⟩,
    ⟨decide (data.version = 6 ∧ data.length < 40), .malformedIp (.short .v6 40 data.length)⟩,
    ⟨decide (data.protocol ≠ tcpProtocol), .notTcp data.protocol⟩,
    ⟨decide (data.version = 4 ∧ data.wordAt 2 ≠ 0 ∧ data.wordAt 2 < 4 * data.headerWords),
      .truncated (4 * data.headerWords) (data.wordAt 2)⟩]

/-- The rules for a segment of some length whose header claims to have some words. -/
def tcpRules (length words : Nat) : List FormatRule :=
  [⟨decide (length < 20), .malformedTcp (.short 20 length)⟩,
    ⟨decide (words < 5), .malformedTcp (.dataOffset words)⟩,
    ⟨decide (length < 4 * words), .malformedTcp (.short (4 * words) length)⟩]

def formatRules (data : Bytes) : List FormatRule :=
  data.ipRules ++
    tcpRules (data.segmentStop - data.segmentStart) (data.offsetWords data.segmentStart)

end Bytes

def firstBroken (rules : List FormatRule) : Option DecodeError :=
  (rules.find? FormatRule.broken).map FormatRule.report

end Reassembly
