import Reassembly.Packet

/-!
# Reading a packet from a capture

A capture is read from its IP header on: the version, the IP header, the
transport protocol, the end that the header claims, and the TCP header, in this
order.  The first check that fails gives the fault.  Every byte is read where a
bound on the capture's length is in scope.
-/

set_option autoImplicit false

namespace Reassembly

inductive IpFault where
  | short (family : Family) (required available : Nat)
  | headerLength (words : Nat)
  deriving DecidableEq, Repr

inductive TcpFault where
  | short (required available : Nat)
  | dataOffset (words : Nat)
  deriving DecidableEq, Repr

inductive DecodeError where
  | empty
  | unsupportedVersion (version : Nat)
  | malformedIp (fault : IpFault)
  | notTcp (protocol : Nat)
  | truncated (needed available : Nat)
  | malformedTcp (fault : TcpFault)
  deriving DecidableEq, Repr

def IpFault.message : IpFault → String
  | .short family required available =>
      s!"IPv{family.number} Header Error: Not enough data to decode " ++
        s!"'IPv{family.number} header'. {required} byte(s) would be required, but only " ++
        s!"{available} byte(s) are available based on the slice length."
  | .headerLength words =>
      s!"IPv4 Header Error: The 'internet header length' value '{words}' present in the IPv4 " ++
        "header is smaller than the minimum size of an IPv4 header. " ++
        "The minimum allowed value is '5'."

def TcpFault.message : TcpFault → String
  | .short required available =>
      s!"TCP Header Error: Not enough data to decode 'TCP header'. {required} byte(s) would be " ++
        s!"required, but only {available} byte(s) are available based on the slice length."
  | .dataOffset words =>
      s!"TCP Header Error: 'data offset' too small ({words}). The 'data offset' must be " ++
        "at least 5 so the data is not overlapping with the TCP header itself."

def DecodeError.message : DecodeError → String
  | .empty => "empty packet"
  | .unsupportedVersion version => s!"unsupported IP version {version}"
  | .malformedIp fault => s!"malformed IP header: {fault.message}"
  | .notTcp protocol => s!"not a TCP segment (IP protocol {protocol})"
  | .truncated needed available =>
      s!"truncated packet: header needs {needed} bytes, capture has {available}"
  | .malformedTcp fault => s!"malformed TCP header: {fault.message}"

def highNibble (byte : UInt8) : Nat := byte.toNat / 16

def lowNibble (byte : UInt8) : Nat := byte.toNat % 16

def tcpProtocol : Nat := 6

/-- What an IP header says: its version, both addresses, as endpoints that await their port,
the header's length, and where the datagram claims to end. -/
structure IpHeader where
  version : UInt8
  src : UInt16 → Endpoint
  dst : UInt16 → Endpoint
  length : Nat
  stop : Nat

structure TcpHeader where
  srcPort : UInt16
  dstPort : UInt16
  seq : UInt32
  flags : Flags
  length : Nat

def Ipv4.at (data : Bytes) (offset : Nat) (room : offset + 4 ≤ data.length) : Ipv4 :=
  ⟨Vector.ofFn fun (i : Fin 4) => data.get ⟨offset + i, by omega⟩⟩

def Ipv6.at (data : Bytes) (offset : Nat) (room : offset + 16 ≤ data.length) : Ipv6 :=
  ⟨Vector.ofFn fun (i : Fin 8) =>
    Bytes.word16 (data.get ⟨offset + 2 * i, by omega⟩)
      (data.get ⟨offset + 2 * i + 1, by omega⟩)⟩

/-- Where an IPv4 datagram ends: a total length of zero, which offloading leaves
behind, stands for the end of the capture. -/
def claimedEnd (totalLength available : Nat) : Nat :=
  if totalLength = 0 then available else totalLength

def IpHeader.readV4 (data : Bytes) : Except DecodeError IpHeader :=
  if room : 20 ≤ data.length then
    let words := lowNibble data[0]
    let protocol := data[9].toNat
    if words < 5 then .error (.malformedIp (.headerLength words))
    else if data.length < 4 * words then
      .error (.malformedIp (.short .v4 (4 * words) data.length))
    else if protocol ≠ tcpProtocol then .error (.notTcp protocol)
    else
      .ok {
        version := 4
        src := .v4 (Ipv4.at data 12 (by omega))
        dst := .v4 (Ipv4.at data 16 (by omega))
        length := 4 * words
        stop := claimedEnd (Bytes.word16 data[2] data[3]).toNat data.length }
  else .error (.malformedIp (.short .v4 20 data.length))

def IpHeader.readV6 (data : Bytes) : Except DecodeError IpHeader :=
  if room : 40 ≤ data.length then
    let protocol := data[6].toNat
    if protocol ≠ tcpProtocol then .error (.notTcp protocol)
    else
      .ok {
        version := 6
        src := .v6 (Ipv6.at data 8 (by omega)) 0 0
        dst := .v6 (Ipv6.at data 24 (by omega)) 0 0
        length := 40
        stop := 40 + (Bytes.word16 data[4] data[5]).toNat }
  else .error (.malformedIp (.short .v6 40 data.length))

def IpHeader.read (data : Bytes) : Except DecodeError IpHeader :=
  match data with
  | [] => .error .empty
  | first :: _ =>
      match highNibble first with
      | 4 => readV4 data
      | 6 => readV6 data
      | version => .error (.unsupportedVersion version)

def TcpHeader.read (segment : Bytes) : Except DecodeError TcpHeader :=
  if room : 20 ≤ segment.length then
    let words := highNibble segment[12]
    if words < 5 then .error (.malformedTcp (.dataOffset words))
    else if segment.length < 4 * words then
      .error (.malformedTcp (.short (4 * words) segment.length))
    else
      .ok {
        srcPort := Bytes.word16 segment[0] segment[1]
        dstPort := Bytes.word16 segment[2] segment[3]
        seq := Bytes.word32 segment[4] segment[5] segment[6] segment[7]
        flags := Flags.ofByte segment[13]
        length := 4 * words }
  else .error (.malformedTcp (.short 20 segment.length))

/-- The packet that a capture holds.  What stands behind the claimed end is
padding of the link and is not read. -/
def Packet.decode (capture : Capture) : Except DecodeError Packet :=
  match IpHeader.read capture.data with
  | .error fault => .error fault
  | .ok ip =>
      if ip.stop < ip.length then .error (.truncated ip.length ip.stop)
      else
        let segment := (capture.data.take ip.stop).drop ip.length
        match TcpHeader.read segment with
        | .error fault => .error fault
        | .ok tcp =>
            .ok {
              seq := tcp.seq
              flags := tcp.flags
              payload := segment.drop tcp.length
              timestamp := capture.timestamp
              lost := capture.lost
              src := ip.src tcp.srcPort
              dst := ip.dst tcp.dstPort
              version := ip.version }

end Reassembly
