import Reassembly.Endpoint.Text
import Reassembly.Packet

/-!
# Writing a datagram

A datagram is written with plain headers: no options, a window of 65535, a hop
limit of 64, fragmentation forbidden, and the acknowledgement number 1 when the
acknowledgement flag is set.  Both checksums are the complement of the
ones' complement sum of 16-bit words.
-/

set_option autoImplicit false

namespace Reassembly

structure Datagram where
  family : Family
  src : Endpoint
  dst : Endpoint
  flags : Flags
  seq : UInt32
  payload : Bytes
  deriving DecidableEq, Repr

inductive DatagramFault where
  | otherFamily (family : Family) (src dst : Endpoint)
  | payloadTooLong (family : Family) (actual : Nat)
  deriving DecidableEq, Repr

namespace Datagram

/-- The most bytes that may follow the IP header: an IPv4 total length counts the
header, an IPv6 payload length does not. -/
def room : Family → Nat
  | .v4 => 65515
  | .v6 => 65535

/-- The sum of the big-endian words of a byte string, an odd last byte taken as
the high byte of its word. -/
def wordSum : Bytes → Nat
  | [] => 0
  | [last] => 256 * last.toNat
  | high :: low :: rest => 256 * high.toNat + low.toNat + wordSum rest

/-- A sum with its carries added in until sixteen bits are left: the residue
modulo 65535, where only a sum of zero is written as zero. -/
def endAroundCarry (sum : Nat) : Nat :=
  if sum = 0 then 0 else (sum - 1) % 65535 + 1

def checksum (bytes : Bytes) : UInt16 :=
  UInt16.ofNat (65535 - endAroundCarry (wordSum bytes))

def segmentWith (sum : UInt16) (srcPort dstPort : UInt16) (flags : Flags) (seq : UInt32)
    (payload : Bytes) : Bytes :=
  Bytes.ofWord16 srcPort ++ Bytes.ofWord16 dstPort ++ Bytes.ofWord32 seq ++
    Bytes.ofWord32 (if flags.ack then 1 else 0) ++ [0x50, flags.toByte] ++
    Bytes.ofWord16 65535 ++ Bytes.ofWord16 sum ++ [0, 0] ++ payload

def segment (pseudoHeader : Bytes) (srcPort dstPort : UInt16) (flags : Flags) (seq : UInt32)
    (payload : Bytes) : Bytes :=
  segmentWith
    (checksum (pseudoHeader ++ segmentWith 0 srcPort dstPort flags seq payload))
    srcPort dstPort flags seq payload

def headerV4With (sum : UInt16) (src dst : Ipv4) (length : Nat) : Bytes :=
  [0x45, 0] ++ Bytes.ofWord16 (UInt16.ofNat (20 + length)) ++ [0, 0, 0x40, 0, 64, 6] ++
    Bytes.ofWord16 sum ++ src.bytes ++ dst.bytes

def headerV4 (src dst : Ipv4) (length : Nat) : Bytes :=
  headerV4With (checksum (headerV4With 0 src dst length)) src dst length

def headerV6 (src dst : Ipv6) (length : Nat) : Bytes :=
  [0x60, 0, 0, 0] ++ Bytes.ofWord16 (UInt16.ofNat length) ++ [6, 64] ++ src.bytes ++ dst.bytes

def pseudoHeaderV4 (src dst : Ipv4) (length : Nat) : Bytes :=
  src.bytes ++ dst.bytes ++ [0, 6] ++ Bytes.ofWord16 (UInt16.ofNat length)

def pseudoHeaderV6 (src dst : Ipv6) (length : Nat) : Bytes :=
  src.bytes ++ dst.bytes ++ Bytes.ofWord32 (UInt32.ofNat length) ++ [0, 0, 0, 6]

/-- The bytes of a datagram from its IP header on.  Both endpoints have to be of the
datagram's family. -/
def write (datagram : Datagram) : Except DatagramFault Bytes :=
  let length := 20 + datagram.payload.length
  match datagram.family, datagram.src, datagram.dst with
  | .v4, .v4 src srcPort, .v4 dst dstPort =>
      if room .v4 < length then .error (.payloadTooLong .v4 length)
      else
        .ok (headerV4 src dst length ++
          segment (pseudoHeaderV4 src dst length) srcPort dstPort datagram.flags datagram.seq
            datagram.payload)
  | .v6, .v6 src _ _ srcPort, .v6 dst _ _ dstPort =>
      if room .v6 < length then .error (.payloadTooLong .v6 length)
      else
        .ok (headerV6 src dst length ++
          segment (pseudoHeaderV6 src dst length) srcPort dstPort datagram.flags datagram.seq
            datagram.payload)
  | family, src, dst => .error (.otherFamily family src dst)

end Datagram

def DatagramFault.message : DatagramFault → String
  | .otherFamily family src dst =>
      s!"raw_ipv{family.number} needs IPv{family.number} endpoints, got {src.text} -> {dst.text}"
  | .payloadTooLong family actual =>
      s!"encode TCP segment: PayloadLen(ValueTooBigError \x7b actual: {actual}, " ++
        s!"max_allowed: {Datagram.room family}, value_type: Ipv{family.number}PayloadLength \x7d)"

end Reassembly
