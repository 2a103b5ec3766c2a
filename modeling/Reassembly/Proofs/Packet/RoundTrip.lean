import Reassembly.Packet.Datagram
import Reassembly.Proofs.Packet.Reading

/-!
# Reading a written datagram

A written datagram is an IP header followed by a segment.  The segment is looked at once for both
families; of a header it has to be known where the addresses stand, and that the datagram ends
where the data ends.  The latter is where the limit on the payload is used: beyond it the length
field would wrap.  A datagram that was written is then read through `Packet.decode_of_carries`.
-/

set_option autoImplicit false

namespace Reassembly

/-! ## Fields of joined bytes -/

namespace Bytes

theorem byteAt_append_right (front back : Bytes) (position : Nat) :
    (front ++ back).byteAt (front.length + position) = back.byteAt position := by
  have behind : (front ++ back)[front.length + position]? = back[position]? := by
    rw [List.getElem?_append_right (Nat.le_add_right ..), Nat.add_sub_cancel_left]
  rw [byteAt, byteAt, List.getD_eq_getElem?_getD, behind, ← List.getD_eq_getElem?_getD]

theorem wordAt_append_right (front back : Bytes) (position : Nat) :
    (front ++ back).wordAt (front.length + position) = back.wordAt position := by
  rw [wordAt, wordAt, Nat.add_assoc, byteAt_append_right, byteAt_append_right]

theorem longAt_append_right (front back : Bytes) (position : Nat) :
    (front ++ back).longAt (front.length + position) = back.longAt position := by
  rw [longAt, longAt, Nat.add_assoc, wordAt_append_right, wordAt_append_right]

theorem slice_length (data : Bytes) (start : Nat) :
    data.slice start data.length = data.drop start := by
  rw [slice, List.take_length]

theorem slice_pair {front first second : Bytes} (back : Bytes) {start count : Nat}
    (place : front.length = start) (size : first.length = count) (size' : second.length = count) :
    (front ++ first ++ second ++ back).slice start (start + count) = first ∧
      (front ++ first ++ second ++ back).slice (start + count) (start + count + count) =
        second := by
  have middle : (front ++ first).length = start + count := by
    rw [List.length_append, place, size]
  have upTo : (front ++ first ++ second).length = start + count + count := by
    rw [List.length_append, middle, size']
  constructor
  · rw [slice, List.append_assoc (front ++ first), ← middle, List.take_left, ← place,
      List.drop_left]
  · rw [slice, ← upTo, List.take_left, ← middle, List.drop_left]

theorem wordAt_ofWord16 {data : Bytes} {position : Nat} {word : UInt16}
    (high : data.byteAt position = (UInt8.ofNat (word.toNat / 256)).toNat)
    (low : data.byteAt (position + 1) = (UInt8.ofNat word.toNat).toNat) :
    data.wordAt position = word.toNat := by
  rw [wordAt, high, low, ← word16_toNat, word16_ofWord16]

theorem longAt_ofWord32 {data : Bytes} {position : Nat} {word : UInt32}
    (front : data.wordAt position =
      256 * (UInt8.ofNat (word.toNat / 16777216)).toNat +
        (UInt8.ofNat (word.toNat / 65536)).toNat)
    (back : data.wordAt (position + 2) =
      256 * (UInt8.ofNat (word.toNat / 256)).toNat + (UInt8.ofNat word.toNat).toNat) :
    data.longAt position = word.toNat := by
  have digits := congrArg UInt32.toNat (word32_ofWord32 word)
  rw [word32_toNat] at digits
  rw [longAt, front, back]
  omega

end Bytes

@[simp] theorem Ipv4.bytes_length (address : Ipv4) : address.bytes.length = 4 := by
  simp [Ipv4.bytes]

@[simp] theorem Ipv6.bytes_length (address : Ipv6) : address.bytes.length = 16 := by
  simp [Ipv6.bytes, List.map_const']

namespace Datagram

def overhead : Family → Nat
  | .v4 => 40
  | .v6 => 60

/-- A datagram that can be written: both endpoints are of its family, and its length field has
room for the segment. -/
structure Fits (datagram : Datagram) : Prop where
  src : datagram.src.family = datagram.family
  dst : datagram.dst.family = datagram.family
  room : 20 + datagram.payload.length ≤ room datagram.family

/-- The packet that a datagram arrives as: its endpoints come without scope and flow information,
which no header carries. -/
def received (datagram : Datagram) (timestamp : Timestamp) (lost : UInt32) : Packet where
  seq := datagram.seq
  flags := datagram.flags
  payload := datagram.payload
  timestamp := timestamp
  lost := lost
  src := datagram.src.bare
  dst := datagram.dst.bare
  version := UInt8.ofNat datagram.family.number

theorem version_received (datagram : Datagram) (timestamp : Timestamp) (lost : UInt32) :
    (datagram.received timestamp lost).version.toNat = datagram.family.number := by
  simp only [received]
  cases datagram.family <;> rfl

/-! ## The segment -/

/-- A segment in which a datagram's ports, number, flags and payload stand. -/
structure StandsIn (datagram : Datagram) (segment : Bytes) : Prop where
  length : segment.length = 20 + datagram.payload.length
  srcPort : segment.wordAt 0 = datagram.src.port.toNat
  dstPort : segment.wordAt 2 = datagram.dst.port.toNat
  seq : segment.longAt 4 = datagram.seq.toNat
  words : segment.offsetWords 0 = 5
  flags : segment.byteAt 13 = datagram.flags.toByte.toNat
  payload : segment.drop 20 = datagram.payload

/-- Whatever the pseudo header is: it has a part in the checksum alone, which is not read. -/
theorem segment_stands (datagram : Datagram) (pseudoHeader : Bytes) :
    datagram.StandsIn
      (segment pseudoHeader datagram.src.port datagram.dst.port datagram.flags datagram.seq
        datagram.payload) where
  length := by
    simp [segment, segmentWith]
    omega
  srcPort := Bytes.wordAt_ofWord16 rfl rfl
  dstPort := Bytes.wordAt_ofWord16 rfl rfl
  seq := Bytes.longAt_ofWord32 rfl rfl
  words := by
    change (0x50 : UInt8).toNat / 16 = 5
    rfl
  flags := rfl
  payload := rfl

/-- Data that begins with an IP header that names two endpoints, and of which the segment is all
the rest. -/
structure Heads (family : Family) (src dst : Endpoint) (header segment : Bytes) : Prop where
  ip : (header ++ segment).HasIpHeader family header.length (header ++ segment).length
  src : ∀ place, src.port.toNat = (header ++ segment).wordAt place →
    (header ++ segment).HasEndpoint family.srcPlace place family src.bare
  dst : ∀ place, dst.port.toNat = (header ++ segment).wordAt place →
    (header ++ segment).HasEndpoint family.dstPlace place family dst.bare

theorem decode_append {datagram : Datagram} {header segment : Bytes}
    (heads : Heads datagram.family datagram.src datagram.dst header segment)
    (stands : datagram.StandsIn segment) (timestamp : Timestamp) (lost : UInt32) :
    Packet.decode ⟨header ++ segment, timestamp, lost⟩ =
      .ok (datagram.received timestamp lost) := by
  have length : (header ++ segment).length - header.length = 20 + datagram.payload.length := by
    rw [List.length_append, Nat.add_sub_cancel_left, stands.length]
  have words : (header ++ segment).offsetWords header.length = 5 := by
    rw [Bytes.offsetWords, Bytes.byteAt_append_right]
    exact stands.words
  -- The flags were set one by one and are read as bits of one byte.
  have byte : (header ++ segment).byteAt (header.length + 13) = datagram.flags.toByte.toNat := by
    rw [Bytes.byteAt_append_right, stands.flags]
  have flags := Flags.ofByte_toByte datagram.flags
  have headers : (header ++ segment).HasHeaders datagram.family header.length
      (header ++ segment).length :=
    ⟨heads.ip, by omega, by omega, by omega⟩
  apply Packet.decode_of_carries headers
  constructor
  case version => exact version_received datagram timestamp lost
  case src =>
      apply heads.src
      exact stands.srcPort.symm.trans (Bytes.wordAt_append_right header segment 0).symm
  case dst =>
      apply heads.dst
      rw [Bytes.wordAt_append_right, stands.dstPort]
  case seq =>
      rw [Bytes.longAt_append_right, stands.seq]
      rfl
  case fin =>
      rw [byte]
      exact (congrArg Flags.fin flags).symm
  case syn =>
      rw [byte]
      exact (congrArg Flags.syn flags).symm
  case rst =>
      rw [byte]
      exact (congrArg Flags.rst flags).symm
  case ack =>
      rw [byte]
      exact (congrArg Flags.ack flags).symm
  case payload =>
      rw [words, Bytes.slice_length, List.drop_length_add_append]
      exact stands.payload.symm
  case timestamp => rfl
  case lost => rfl

/-! ## The headers -/

theorem headerV4_length (src dst : Ipv4) (length : Nat) :
    (headerV4 src dst length).length = 20 := by
  simp [headerV4, headerV4With]

theorem headerV6_length (src dst : Ipv6) (length : Nat) :
    (headerV6 src dst length).length = 40 := by
  simp [headerV6]

/-- The header claims the end of the data, for its total length does not wrap. -/
theorem headerV4_ip (src dst : Ipv4) {segment data : Bytes} (fits : segment.length ≤ room .v4)
    (joined : data = headerV4 src dst segment.length ++ segment) :
    data.HasIpHeader .v4 20 data.length := by
  have long : data.length = 20 + segment.length := by
    rw [joined, List.length_append, headerV4_length]
  have first : data.byteAt 0 = 0x45 := joined ▸ rfl
  have version : data.version = 4 := by rw [Bytes.version, first]
  have words : 4 * data.headerWords = 20 := by rw [Bytes.headerWords, first]
  have transport : data.byteAt 9 = tcpProtocol := joined ▸ rfl
  have total : data.wordAt 2 = data.length := by
    have field : data.wordAt 2 = (UInt16.ofNat (20 + segment.length)).toNat :=
      joined ▸ Bytes.wordAt_ofWord16 rfl rfl
    -- The most that fits is just what brings the total length to 65535.
    have bound : 20 + segment.length < UInt16.size := by
      simp only [room] at fits
      simp only [UInt16.size]
      omega
    rw [field, UInt16.toNat_ofNat_of_lt' bound, long]
  have header := Bytes.HasIpHeader.v4 version (by omega) (by omega) (by omega) transport
    (by omega)
  rwa [words, total, Nat.min_self, ite_self] at header

theorem headerV6_ip (src dst : Ipv6) {segment data : Bytes} (fits : segment.length ≤ room .v6)
    (joined : data = headerV6 src dst segment.length ++ segment) :
    data.HasIpHeader .v6 40 data.length := by
  have long : data.length = 40 + segment.length := by
    rw [joined, List.length_append, headerV6_length]
  have first : data.byteAt 0 = 0x60 := joined ▸ rfl
  have version : data.version = 6 := by rw [Bytes.version, first]
  have transport : data.byteAt 6 = tcpProtocol := joined ▸ rfl
  have claimed : data.wordAt 4 = segment.length := by
    have field : data.wordAt 4 = (UInt16.ofNat segment.length).toNat :=
      joined ▸ Bytes.wordAt_ofWord16 rfl rfl
    have bound : segment.length < UInt16.size := Nat.lt_succ_of_le fits
    rw [field, UInt16.toNat_ofNat_of_lt' bound]
  have header := Bytes.HasIpHeader.v6 version (by omega) transport
  rwa [claimed, ← long, Nat.min_self] at header

theorem headerV4_addresses (src dst : Ipv4) (length : Nat) (back : Bytes) :
    (headerV4 src dst length ++ back).slice 12 16 = src.bytes ∧
      (headerV4 src dst length ++ back).slice 16 20 = dst.bytes :=
  Bytes.slice_pair back rfl src.bytes_length dst.bytes_length

theorem headerV6_addresses (src dst : Ipv6) (length : Nat) (back : Bytes) :
    (headerV6 src dst length ++ back).slice 8 24 = src.bytes ∧
      (headerV6 src dst length ++ back).slice 24 40 = dst.bytes :=
  Bytes.slice_pair back rfl src.bytes_length dst.bytes_length

theorem headerV4_heads (src dst : Ipv4) (srcPort dstPort : UInt16) {segment : Bytes}
    {length : Nat} (long : segment.length = length) (fits : length ≤ room .v4) :
    Heads .v4 (.v4 src srcPort) (.v4 dst dstPort) (headerV4 src dst length) segment := by
  have addresses := headerV4_addresses src dst length segment
  subst long
  constructor
  case ip =>
      rw [headerV4_length]
      exact headerV4_ip src dst fits rfl
  case src => exact fun place digits => .v4 src srcPort addresses.1.symm digits
  case dst => exact fun place digits => .v4 dst dstPort addresses.2.symm digits

theorem headerV6_heads (src dst : Ipv6) (srcFlow srcScope dstFlow dstScope : UInt32)
    (srcPort dstPort : UInt16) {segment : Bytes} {length : Nat} (long : segment.length = length)
    (fits : length ≤ room .v6) :
    Heads .v6 (.v6 src srcFlow srcScope srcPort) (.v6 dst dstFlow dstScope dstPort)
      (headerV6 src dst length) segment := by
  have addresses := headerV6_addresses src dst length segment
  subst long
  constructor
  case ip =>
      rw [headerV6_length]
      exact headerV6_ip src dst fits rfl
  case src => exact fun place digits => .v6 src srcPort addresses.1.symm digits
  case dst => exact fun place digits => .v6 dst dstPort addresses.2.symm digits

/-! ## Writing and reading -/

theorem write_sameFamily {datagram : Datagram} (sameSrc : datagram.src.family = datagram.family)
    (sameDst : datagram.dst.family = datagram.family) :
    ∃ header segment,
      datagram.write =
        (if room datagram.family < 20 + datagram.payload.length then
          .error (.payloadTooLong datagram.family (20 + datagram.payload.length))
        else .ok (header ++ segment)) ∧
      header.length + 20 = overhead datagram.family ∧
      datagram.StandsIn segment ∧
      (20 + datagram.payload.length ≤ room datagram.family →
        Heads datagram.family datagram.src datagram.dst header segment) := by
  have stands := segment_stands datagram
  obtain ⟨family, src, dst, flags, seq, payload⟩ := datagram
  dsimp only at sameSrc sameDst ⊢
  cases src with
  | v4 src srcPort =>
      cases sameSrc
      cases dst with
      | v6 => cases sameDst
      | v4 dst dstPort =>
          refine ⟨_, _, rfl, ?_, stands _,
            headerV4_heads src dst srcPort dstPort (stands _).length⟩
          rw [headerV4_length]
          rfl
  | v6 src srcFlow srcScope srcPort =>
      cases sameSrc
      cases dst with
      | v4 => cases sameDst
      | v6 dst dstFlow dstScope dstPort =>
          refine ⟨_, _, rfl, ?_, stands _,
            headerV6_heads src dst srcFlow srcScope dstFlow dstScope srcPort dstPort
              (stands _).length⟩
          rw [headerV6_length]
          rfl

theorem write_otherFamily {datagram : Datagram}
    (other : datagram.src.family ≠ datagram.family ∨ datagram.dst.family ≠ datagram.family) :
    datagram.write = .error (.otherFamily datagram.family datagram.src datagram.dst) := by
  obtain ⟨family, src, dst, flags, seq, payload⟩ := datagram
  simp only [write]
  split
  -- The first two cases are those in which all three families agree.
  · simp [Endpoint.family] at other
  · simp [Endpoint.family] at other
  · rfl

/-- A datagram that fits is written, and arrives with all that it says except for the scopes and
the flow information of its endpoints; no other datagram is written. -/
theorem decode_write (datagram : Datagram) :
    (datagram.Fits → ∃ data, datagram.write = .ok data ∧
      data.length = overhead datagram.family + datagram.payload.length ∧
      ∀ timestamp lost,
        Packet.decode ⟨data, timestamp, lost⟩ = .ok (datagram.received timestamp lost)) ∧
    (datagram.src.family ≠ datagram.family ∨ datagram.dst.family ≠ datagram.family →
      datagram.write = .error (.otherFamily datagram.family datagram.src datagram.dst)) ∧
    (datagram.src.family = datagram.family → datagram.dst.family = datagram.family →
      room datagram.family < 20 + datagram.payload.length →
      datagram.write =
        .error (.payloadTooLong datagram.family (20 + datagram.payload.length))) := by
  refine ⟨?fits, write_otherFamily, ?tooLong⟩
  case fits =>
      intro fits
      obtain ⟨header, segment, written, size, stands, heads⟩ := write_sameFamily fits.src fits.dst
      rw [if_neg (Nat.not_lt.mpr fits.room)] at written
      refine ⟨header ++ segment, written, ?_, decode_append (heads fits.room) stands⟩
      rw [List.length_append, stands.length, ← size]
      omega
  case tooLong =>
      intro sameSrc sameDst long
      obtain ⟨header, segment, written, -⟩ := write_sameFamily sameSrc sameDst
      rw [written, if_pos long]

/-- An answer between two endpoints on one link, at the highest sequence number. -/
def greeting : Datagram where
  family := .v6
  src := .v6 ⟨#v[0xfe80, 0, 0, 0, 0, 0, 0, 1]⟩ 7 3 80
  dst := .v6 ⟨#v[0xfe80, 0, 0, 0, 0, 0, 0, 2]⟩ 0 3 4000
  flags := .openingReply
  seq := 4294967295
  payload := [104, 105]

theorem greeting_arrives :
    (greeting.Fits ∧ ∃ data, greeting.write = .ok data ∧ data.length = 62 ∧
      ∀ timestamp lost,
        Packet.decode ⟨data, timestamp, lost⟩ = .ok (greeting.received timestamp lost)) ∧
    { greeting with family := .v4 }.write =
      .error (.otherFamily .v4 greeting.src greeting.dst) ∧
    { greeting with payload := List.replicate 65516 0 }.write =
      .error (.payloadTooLong .v6 65536) := by
  have fits : greeting.Fits := ⟨rfl, rfl, by decide⟩
  have tooLong (payload : Bytes) (long : payload.length = 65516) :
      { greeting with payload := payload }.write = .error (.payloadTooLong .v6 65536) := by
    have written := (decode_write { greeting with payload := payload }).2.2 rfl rfl
    simp only [long] at written
    exact written (by decide)
  refine ⟨⟨fits, (decode_write greeting).1 fits⟩, ?_, tooLong _ List.length_replicate⟩
  exact (decode_write { greeting with family := .v4 }).2.1 (.inl (by decide))

end Datagram

end Reassembly
