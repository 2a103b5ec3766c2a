import Mathlib.Tactic.SplitIfs
import Reassembly.Proofs.Packet.Headers
import Reassembly.Proofs.Packet.Positions

/-!
# Reading follows the format

Each of the two headers is read on its own: what comes of it is the report of the first rule of
its own that is broken, or a header that says what stands in the bytes.  Together they give
`decode_follows`: exactly data with both headers is read, the packet says what stands there and
nothing else, and other data is answered with the report of the first broken rule.
-/

set_option autoImplicit false

namespace Reassembly

/-! ## The first broken rule -/

theorem firstBroken_nil : firstBroken [] = none := rfl

theorem firstBroken_cons (rule : FormatRule) (rest : List FormatRule) :
    firstBroken (rule :: rest) = if rule.broken then some rule.report else firstBroken rest := by
  cases broken : rule.broken <;> simp [firstBroken, broken]

theorem firstBroken_append (front back : List FormatRule) :
    firstBroken (front ++ back) = (firstBroken front).or (firstBroken back) := by
  simp [firstBroken, Option.map_or]

namespace Bytes

theorem firstBroken_ipRules_nil : firstBroken (ipRules []) = some .empty := rfl

theorem firstBroken_ipRules_v4 {data : Bytes} (filled : data.length ≠ 0)
    (version : data.version = 4) :
    firstBroken data.ipRules =
      if data.length < 20 then some (.malformedIp (.short .v4 20 data.length))
      else if data.headerWords < 5 then some (.malformedIp (.headerLength data.headerWords))
      else if data.length < 4 * data.headerWords then
        some (.malformedIp (.short .v4 (4 * data.headerWords) data.length))
      else if data.byteAt 9 ≠ tcpProtocol then some (.notTcp (data.byteAt 9))
      else if data.wordAt 2 ≠ 0 ∧ data.wordAt 2 < 4 * data.headerWords then
        some (.truncated (4 * data.headerWords) (data.wordAt 2))
      else none := by
  have protocol : data.protocol = data.byteAt 9 := if_pos version
  simp [ipRules, firstBroken_cons, filled, version, protocol, firstBroken_nil]

theorem firstBroken_ipRules_v6 {data : Bytes} (filled : data.length ≠ 0)
    (version : data.version = 6) :
    firstBroken data.ipRules =
      if data.length < 40 then some (.malformedIp (.short .v6 40 data.length))
      else if data.byteAt 6 ≠ tcpProtocol then some (.notTcp (data.byteAt 6))
      else none := by
  have protocol : data.protocol = data.byteAt 6 := if_neg (by omega)
  simp [ipRules, firstBroken_cons, filled, version, protocol, firstBroken_nil]

theorem firstBroken_ipRules_other {data : Bytes} (filled : data.length ≠ 0)
    (not4 : data.version ≠ 4) (not6 : data.version ≠ 6) :
    firstBroken data.ipRules = some (.unsupportedVersion data.version) := by
  simp [ipRules, firstBroken_cons, filled, not4, not6]

end Bytes

/-! ## The IP header -/

namespace IpHeader

/-- A header that says what stands in the data it was read from. -/
structure Tells (ip : IpHeader) (data : Bytes) (family : Family) : Prop where
  version : ip.version.toNat = family.number
  src : ∀ number place, number.toNat = data.wordAt place →
    data.HasEndpoint family.srcPlace place family (ip.src number)
  dst : ∀ number place, number.toNat = data.wordAt place →
    data.HasEndpoint family.dstPlace place family (ip.dst number)
  length : ip.length = data.segmentStart
  stop : min data.length ip.stop = data.segmentStop

/-- What comes of reading an IP header: the report of the first broken rule, or a header, which
may still claim an end before its own. -/
inductive Reads (data : Bytes) : Except DecodeError IpHeader → Prop
  | fails (error : DecodeError) (broken : firstBroken data.ipRules = some error) :
      Reads data (.error error)
  | cut (ip : IpHeader) (short : ip.stop < ip.length)
      (broken : firstBroken data.ipRules = some (.truncated ip.length ip.stop)) :
      Reads data (.ok ip)
  | sound (ip : IpHeader) (family : Family) (tells : ip.Tells data family)
      (claimed : ip.length ≤ ip.stop) (kept : firstBroken data.ipRules = none)
      (header : data.HasIpHeader family data.segmentStart data.segmentStop) :
      Reads data (.ok ip)

def v4 (data : Bytes) (src dst : Ipv4) : IpHeader where
  version := 4
  src := .v4 src
  dst := .v4 dst
  length := 4 * data.headerWords
  stop := claimedEnd (data.wordAt 2) data.length

def v6 (data : Bytes) (src dst : Ipv6) : IpHeader where
  version := 6
  src := .v6 src 0 0
  dst := .v6 dst 0 0
  length := 40
  stop := 40 + data.wordAt 4

theorem readV4_eq {data : Bytes} (room : 20 ≤ data.length) :
    ∃ src dst : Ipv4, src.bytes = data.slice 12 16 ∧ dst.bytes = data.slice 16 20 ∧
      readV4 data =
        if data.headerWords < 5 then .error (.malformedIp (.headerLength data.headerWords))
        else if data.length < 4 * data.headerWords then
          .error (.malformedIp (.short .v4 (4 * data.headerWords) data.length))
        else if data.byteAt 9 ≠ tcpProtocol then .error (.notTcp (data.byteAt 9))
        else .ok (v4 data src dst) := by
  have words : lowNibble data[0] = data.headerWords := by
    rw [lowNibble, Bytes.headerWords, Bytes.byteAt_of_lt]
  have protocol : data[9].toNat = data.byteAt 9 := (Bytes.byteAt_of_lt _).symm
  have total : (Bytes.word16 data[2] data[3]).toNat = data.wordAt 2 :=
    (Bytes.wordAt_of_lt (by omega)).symm
  refine ⟨Ipv4.at data 12 (by omega), Ipv4.at data 16 (by omega), Ipv4.bytes_at _,
    Ipv4.bytes_at _, ?_⟩
  simp only [readV4, dif_pos room, words, protocol, total]
  rfl

theorem readV6_eq {data : Bytes} (room : 40 ≤ data.length) :
    ∃ src dst : Ipv6, src.bytes = data.slice 8 24 ∧ dst.bytes = data.slice 24 40 ∧
      readV6 data =
        if data.byteAt 6 ≠ tcpProtocol then .error (.notTcp (data.byteAt 6))
        else .ok (v6 data src dst) := by
  have protocol : data[6].toNat = data.byteAt 6 := (Bytes.byteAt_of_lt _).symm
  have payload : (Bytes.word16 data[4] data[5]).toNat = data.wordAt 4 :=
    (Bytes.wordAt_of_lt (by omega)).symm
  refine ⟨Ipv6.at data 8 (by omega), Ipv6.at data 24 (by omega), Ipv6.bytes_at _,
    Ipv6.bytes_at _, ?_⟩
  simp only [readV6, dif_pos room, protocol, payload]
  rfl

theorem v4_tells {data : Bytes} (version : data.version = 4) {src dst : Ipv4}
    (srcBytes : src.bytes = data.slice 12 16) (dstBytes : dst.bytes = data.slice 16 20) :
    (v4 data src dst).Tells data .v4 where
  version := rfl
  src := fun number place digits => .v4 src number srcBytes digits
  dst := fun number place digits => .v4 dst number dstBytes digits
  length := (if_pos version).symm
  stop := by
    rw [Bytes.segmentStop, if_pos version]
    simp only [v4, claimedEnd]
    split
    · exact Nat.min_self _
    · rfl

theorem v6_tells {data : Bytes} (version : data.version = 6) {src dst : Ipv6}
    (srcBytes : src.bytes = data.slice 8 24) (dstBytes : dst.bytes = data.slice 24 40) :
    (v6 data src dst).Tells data .v6 where
  version := rfl
  src := fun number place digits => .v6 src number srcBytes digits
  dst := fun number place digits => .v6 dst number dstBytes digits
  length := (if_neg (by omega)).symm
  stop := (if_neg (by omega)).symm

theorem readV4_reads {data : Bytes} (filled : data.length ≠ 0) (version : data.version = 4) :
    Reads data (readV4 data) := by
  have rules := Bytes.firstBroken_ipRules_v4 filled version
  by_cases room : 20 ≤ data.length
  · rw [if_neg (Nat.not_lt.mpr room)] at rules
    obtain ⟨src, dst, srcBytes, dstBytes, read⟩ := readV4_eq room
    rw [read]
    -- The rules and the reading take their checks in the same order, so they are split together.
    split_ifs at rules ⊢ with few short other total
    · exact .fails _ rules
    · exact .fails _ rules
    · exact .fails _ rules
    · have claimed : (v4 data src dst).stop = data.wordAt 2 := if_neg total.1
      apply Reads.cut
      · rw [claimed]
        exact total.2
      · rw [claimed]
        exact rules
    · have tells := v4_tells version srcBytes dstBytes
      have claimed : data.wordAt 2 = 0 ∨ 4 * data.headerWords ≤ data.wordAt 2 := by omega
      have header := Bytes.HasIpHeader.v4 version room (Nat.not_lt.mp few) (Nat.not_lt.mp short)
        (Decidable.not_not.mp other) claimed
      apply Reads.sound _ .v4 tells _ rules
      · rwa [Bytes.segmentStart, Bytes.segmentStop, if_pos version, if_pos version]
      · simp only [v4, claimedEnd]
        split <;> omega
  · rw [if_pos (Nat.lt_of_not_le room)] at rules
    rw [readV4, dif_neg room]
    exact .fails _ rules

theorem readV6_reads {data : Bytes} (filled : data.length ≠ 0) (version : data.version = 6) :
    Reads data (readV6 data) := by
  have rules := Bytes.firstBroken_ipRules_v6 filled version
  have not4 : data.version ≠ 4 := by omega
  by_cases room : 40 ≤ data.length
  · rw [if_neg (Nat.not_lt.mpr room)] at rules
    obtain ⟨src, dst, srcBytes, dstBytes, read⟩ := readV6_eq room
    rw [read]
    split_ifs at rules ⊢ with other
    · exact .fails _ rules
    · have header := Bytes.HasIpHeader.v6 version room (Decidable.not_not.mp other)
      have tells := v6_tells version srcBytes dstBytes
      apply Reads.sound _ .v6 tells (Nat.le_add_right 40 _) rules
      rwa [Bytes.segmentStart, Bytes.segmentStop, if_neg not4, if_neg not4]
  · rw [if_pos (Nat.lt_of_not_le room)] at rules
    rw [readV6, dif_neg room]
    exact .fails _ rules

theorem read_reads (data : Bytes) : Reads data (IpHeader.read data) := by
  cases data with
  | nil => exact .fails _ Bytes.firstBroken_ipRules_nil
  | cons first rest =>
      have filled : (first :: rest).length ≠ 0 := Nat.succ_ne_zero _
      have version : highNibble first = Bytes.version (first :: rest) := rfl
      simp only [IpHeader.read]
      split
      · rename_i is4
        exact readV4_reads filled (version ▸ is4)
      · rename_i is6
        exact readV6_reads filled (version ▸ is6)
      · rename_i not4 not6
        exact .fails _ (Bytes.firstBroken_ipRules_other filled not4 not6)

end IpHeader

/-! ## The TCP header -/

namespace Bytes

theorem firstBroken_tcpRules (length words : Nat) :
    firstBroken (tcpRules length words) =
      if length < 20 then some (.malformedTcp (.short 20 length))
      else if words < 5 then some (.malformedTcp (.dataOffset words))
      else if length < 4 * words then some (.malformedTcp (.short (4 * words) length))
      else none := by
  simp [tcpRules, firstBroken_cons, firstBroken_nil]

/-- The words of a header are only asked for where the segment has room for one. -/
theorem firstBroken_tcpRules_congr {length words words' : Nat}
    (same : 20 ≤ length → words = words') :
    firstBroken (tcpRules length words) = firstBroken (tcpRules length words') := by
  by_cases room : 20 ≤ length
  · rw [same room]
  · have short := Nat.lt_of_not_le room
    rw [firstBroken_tcpRules, firstBroken_tcpRules, if_pos short, if_pos short]

end Bytes

namespace TcpHeader

/-- A header that says what stands in the segment it was read from. -/
structure Tells (tcp : TcpHeader) (segment : Bytes) : Prop where
  srcPort : tcp.srcPort.toNat = segment.wordAt 0
  dstPort : tcp.dstPort.toNat = segment.wordAt 2
  seq : tcp.seq.toNat = segment.longAt 4
  fin : tcp.flags.fin = (segment.byteAt 13).testBit 0
  syn : tcp.flags.syn = (segment.byteAt 13).testBit 1
  rst : tcp.flags.rst = (segment.byteAt 13).testBit 2
  ack : tcp.flags.ack = (segment.byteAt 13).testBit 4
  length : tcp.length = 4 * segment.offsetWords 0

inductive Reads (segment : Bytes) : Except DecodeError TcpHeader → Prop
  | fails (error : DecodeError)
      (broken : firstBroken (Bytes.tcpRules segment.length (segment.offsetWords 0)) = some error) :
      Reads segment (.error error)
  | sound (tcp : TcpHeader) (tells : tcp.Tells segment) (fixed : 20 ≤ segment.length)
      (least : 5 ≤ segment.offsetWords 0) (whole : 4 * segment.offsetWords 0 ≤ segment.length) :
      Reads segment (.ok tcp)

theorem read_reads (segment : Bytes) : Reads segment (TcpHeader.read segment) := by
  have rules := Bytes.firstBroken_tcpRules segment.length (segment.offsetWords 0)
  by_cases room : 20 ≤ segment.length
  · have words : highNibble segment[12] = segment.offsetWords 0 := by
      rw [highNibble, Bytes.offsetWords, Bytes.byteAt_of_lt]
    have flags : segment[13].toNat = segment.byteAt 13 := (Bytes.byteAt_of_lt _).symm
    rw [if_neg (Nat.not_lt.mpr room)] at rules
    simp only [TcpHeader.read, dif_pos room, words]
    split_ifs at rules ⊢ with few short
    · exact .fails _ rules
    · exact .fails _ rules
    · refine .sound _ ?_ room (Nat.not_lt.mp few) (Nat.not_lt.mp short)
      constructor
      case srcPort => exact (Bytes.wordAt_of_lt (by omega)).symm
      case dstPort => exact (Bytes.wordAt_of_lt (by omega)).symm
      case seq => exact (Bytes.longAt_of_lt (by omega)).symm
      case fin => rw [← flags]; rfl
      case syn => rw [← flags]; rfl
      case rst => rw [← flags]; rfl
      case ack => rw [← flags]; rfl
      case length => rfl
  · rw [if_pos (Nat.lt_of_not_le room)] at rules
    rw [TcpHeader.read, dif_neg room]
    exact .fails _ rules

end TcpHeader

/-! ## Data with both headers -/

theorem Family.number_injective : Function.Injective Family.number := by
  intro first second same
  cases first with
  | v4 =>
      cases second with
      | v4 => rfl
      | v6 => exact absurd same (by decide)
  | v6 =>
      cases second with
      | v4 => exact absurd same (by decide)
      | v6 => rfl

namespace Bytes

namespace HasIpHeader

variable {data : Bytes} {family : Family} {start stop : Nat}

theorem version_eq (header : data.HasIpHeader family start stop) :
    data.version = family.number := by
  cases header with
  | v4 version fixed least whole transport claimed => exact version
  | v6 version fixed transport => exact version

theorem start_eq (header : data.HasIpHeader family start stop) : start = data.segmentStart := by
  cases header with
  | v4 version fixed least whole transport claimed => exact (if_pos version).symm
  | v6 version fixed transport => exact (if_neg (by omega)).symm

theorem stop_eq (header : data.HasIpHeader family start stop) : stop = data.segmentStop := by
  cases header with
  | v4 version fixed least whole transport claimed => exact (if_pos version).symm
  | v6 version fixed transport => exact (if_neg (by omega)).symm

theorem stop_le (header : data.HasIpHeader family start stop) : stop ≤ data.length := by
  cases header with
  | v4 version fixed least whole transport claimed => split <;> omega
  | v6 version fixed transport => exact Nat.min_le_left ..

theorem keeps_rules (header : data.HasIpHeader family start stop) :
    firstBroken data.ipRules = none := by
  cases header with
  | v4 version fixed least whole transport claimed =>
      have within : ¬(data.wordAt 2 ≠ 0 ∧ data.wordAt 2 < 4 * data.headerWords) := by omega
      rw [firstBroken_ipRules_v4 (by omega) version, if_neg (by omega), if_neg (by omega),
        if_neg (by omega), if_neg (not_not_intro transport), if_neg within]
  | v6 version fixed transport =>
      rw [firstBroken_ipRules_v6 (by omega) version, if_neg (by omega),
        if_neg (not_not_intro transport)]

end HasIpHeader

theorem HasHeaders.keeps_rules {data : Bytes} {family : Family} {start stop : Nat}
    (headers : data.HasHeaders family start stop) : firstBroken data.formatRules = none := by
  have fixed := headers.fixed
  have least := headers.least
  have whole := headers.whole
  rw [formatRules, firstBroken_append, headers.ip.keeps_rules, firstBroken_tcpRules,
    ← headers.ip.start_eq, ← headers.ip.stop_eq, if_neg (by omega), if_neg (by omega),
    if_neg (by omega)]
  rfl

theorem HasHeaders.unique {data : Bytes} {family family' : Family} {start stop start' stop' : Nat}
    (one : data.HasHeaders family start stop) (other : data.HasHeaders family' start' stop') :
    family = family' ∧ start = start' ∧ stop = stop' := by
  have families := Family.number_injective (one.ip.version_eq.symm.trans other.ip.version_eq)
  exact ⟨families, one.ip.start_eq.trans other.ip.start_eq.symm,
    one.ip.stop_eq.trans other.ip.stop_eq.symm⟩

theorem HasEndpoint.unique {data : Bytes} {host port : Nat} {family : Family}
    {first second : Endpoint} (one : data.HasEndpoint host port family first)
    (other : data.HasEndpoint host port family second) : first = second := by
  cases one with
  | v4 address number bytes digits =>
      cases other with
      | v4 address' number' bytes' digits' =>
          rw [Ipv4.bytes_injective (bytes.trans bytes'.symm),
            UInt16.toNat_inj.mp (digits.trans digits'.symm)]
  | v6 address number bytes digits =>
      cases other with
      | v6 address' number' bytes' digits' =>
          rw [Ipv6.bytes_injective (bytes.trans bytes'.symm),
            UInt16.toNat_inj.mp (digits.trans digits'.symm)]

end Bytes

/-- What a packet says of its data determines it. -/
theorem Capture.Carries.unique {capture : Capture} {family : Family} {start stop : Nat}
    {first second : Packet} (one : capture.Carries family start stop first)
    (other : capture.Carries family start stop second) : first = second := by
  obtain ⟨seq, ⟨syn, ack, fin, rst⟩, payload, timestamp, lost, src, dst, version⟩ := first
  obtain ⟨seq', ⟨syn', ack', fin', rst'⟩, payload', timestamp', lost', src', dst', version'⟩ :=
    second
  have flags := And.intro (one.syn.trans other.syn.symm) (And.intro (one.ack.trans other.ack.symm)
    (And.intro (one.fin.trans other.fin.symm) (one.rst.trans other.rst.symm)))
  simp only [Packet.mk.injEq, Flags.mk.injEq]
  exact ⟨UInt32.toNat_inj.mp (one.seq.trans other.seq.symm), flags,
    one.payload.trans other.payload.symm, one.timestamp.trans other.timestamp.symm,
    one.lost.trans other.lost.symm, one.src.unique other.src, one.dst.unique other.dst,
    UInt8.toNat_inj.mp (one.version.trans other.version.symm)⟩

/-! ## The packet -/

inductive Capture.Reads (capture : Capture) : Except DecodeError Packet → Prop
  | fails (error : DecodeError) (broken : firstBroken capture.data.formatRules = some error) :
      Reads capture (.error error)
  | sound (packet : Packet) (family : Family) (start stop : Nat)
      (headers : capture.data.HasHeaders family start stop)
      (carries : capture.Carries family start stop packet) : Reads capture (.ok packet)

namespace Bytes

theorem length_segment {data : Bytes} {family : Family} {start stop : Nat}
    (header : data.HasIpHeader family start stop) :
    (data.slice start stop).length = stop - start := by
  rw [length_slice, Nat.min_eq_left header.stop_le]

theorem offsetWords_slice {data : Bytes} {start stop : Nat} (room : 20 ≤ stop - start) :
    (data.slice start stop).offsetWords 0 = data.offsetWords start := by
  have inside : start + (0 + 12) < stop := by omega
  rw [offsetWords, byteAt_slice data inside, offsetWords, Nat.zero_add]

end Bytes

theorem Capture.reads_segment {capture : Capture} {ip : IpHeader} {family : Family}
    (tells : ip.Tells capture.data family) (kept : firstBroken capture.data.ipRules = none)
    (header : capture.data.HasIpHeader family capture.data.segmentStart capture.data.segmentStop)
    {segment : Bytes}
    (cut : segment = capture.data.slice capture.data.segmentStart capture.data.segmentStop) :
    capture.Reads
      (match TcpHeader.read segment with
        | .error fault => .error fault
        | .ok tcp =>
            .ok {
              seq := tcp.seq
              flags := tcp.flags
              payload := segment.drop tcp.length
              timestamp := capture.timestamp
              lost := capture.lost
              src := ip.src tcp.srcPort
              dst := ip.dst tcp.dstPort
              version := ip.version }) := by
  have length : segment.length = capture.data.segmentStop - capture.data.segmentStart := by
    rw [cut, Bytes.length_segment header]
  have words : 20 ≤ segment.length →
      segment.offsetWords 0 = capture.data.offsetWords capture.data.segmentStart := by
    intro room
    rw [cut, Bytes.offsetWords_slice (length ▸ room)]
  have read := TcpHeader.read_reads segment
  generalize TcpHeader.read segment = outcome at read
  cases read with
  | fails error broken =>
      apply Reads.fails
      rw [Bytes.firstBroken_tcpRules_congr words, length] at broken
      rw [Bytes.formatRules, firstBroken_append, kept, broken]
      rfl
  | sound tcp said fixed least whole =>
      rw [words fixed, length] at whole
      rw [words fixed] at least
      have room : 20 ≤ capture.data.segmentStop - capture.data.segmentStart := length ▸ fixed
      refine .sound _ family _ _ ⟨header, room, least, whole⟩ ?_
      constructor
      case version => exact tells.version
      case src =>
          apply tells.src
          rw [said.srcPort, cut, Bytes.wordAt_slice _ (by omega)]
          rfl
      case dst =>
          apply tells.dst
          rw [said.dstPort, cut, Bytes.wordAt_slice _ (by omega)]
      case seq =>
          rw [said.seq, cut, Bytes.longAt_slice _ (by omega)]
      case fin =>
          rw [said.fin, cut, Bytes.byteAt_slice _ (by omega)]
      case syn =>
          rw [said.syn, cut, Bytes.byteAt_slice _ (by omega)]
      case rst =>
          rw [said.rst, cut, Bytes.byteAt_slice _ (by omega)]
      case ack =>
          rw [said.ack, cut, Bytes.byteAt_slice _ (by omega)]
      case payload =>
          dsimp only
          rw [said.length, words fixed, cut, Bytes.drop_slice]
      case timestamp => rfl
      case lost => rfl

theorem Packet.decode_reads (capture : Capture) : capture.Reads (Packet.decode capture) := by
  have header := IpHeader.read_reads capture.data
  unfold Packet.decode
  generalize IpHeader.read capture.data = result at header
  cases header with
  | fails error broken =>
      apply Capture.Reads.fails
      rw [Bytes.formatRules, firstBroken_append, broken]
      rfl
  | cut ip short broken =>
      dsimp only
      rw [if_pos short]
      apply Capture.Reads.fails
      rw [Bytes.formatRules, firstBroken_append, broken]
      rfl
  | sound ip family tells claimed kept header =>
      dsimp only
      rw [if_neg (Nat.not_lt.mpr claimed)]
      have cut : (capture.data.take ip.stop).drop ip.length =
          capture.data.slice capture.data.segmentStart capture.data.segmentStop := by
        rw [← tells.stop, Bytes.slice_min, ← tells.length]
        rfl
      rw [cut]
      exact Capture.reads_segment tells kept header rfl

theorem Packet.decode_of_carries {capture : Capture} {family : Family} {start stop : Nat}
    {packet : Packet} (headers : capture.data.HasHeaders family start stop)
    (carries : capture.Carries family start stop packet) :
    Packet.decode capture = .ok packet := by
  have reads := decode_reads capture
  generalize decode capture = result at reads
  cases reads with
  | fails error broken =>
      rw [headers.keeps_rules] at broken
      cases broken
  | sound other family' start' stop' headers' carries' =>
      obtain ⟨rfl, rfl, rfl⟩ := headers.unique headers'
      rw [carries.unique carries']

theorem Bytes.HasHeaders.within {data : Bytes} {family : Family} {start stop : Nat}
    (headers : data.HasHeaders family start stop) :
    start + 4 * data.offsetWords start ≤ stop ∧ stop ≤ data.length := by
  have fixed := headers.fixed
  have whole := headers.whole
  exact ⟨by omega, headers.ip.stop_le⟩

/-- Reading a capture, said by the format. -/
structure Capture.FollowsFormat (capture : Capture) : Prop where
  accepts : (∃ packet, Packet.decode capture = .ok packet) ↔
    ∃ family start stop, capture.data.HasHeaders family start stop
  gives : ∀ packet, Packet.decode capture = .ok packet ↔
    ∃ family start stop, capture.data.HasHeaders family start stop ∧
      capture.Carries family start stop packet
  refuses : ∀ error, Packet.decode capture = .error error ↔
    firstBroken capture.data.formatRules = some error
  /-- Headers and payload lie within the data, and so does every byte that a packet tells of. -/
  within : ∀ family start stop, capture.data.HasHeaders family start stop →
    start + 4 * capture.data.offsetWords start ≤ stop ∧ stop ≤ capture.data.length
  /-- What is cut out of other data lies within it too. -/
  cuts : capture.data.HoldsHeaders

theorem Packet.decode_follows (capture : Capture) : capture.FollowsFormat := by
  have reads := decode_reads capture
  constructor
  case accepts =>
      constructor
      · rintro ⟨packet, decoded⟩
        rw [decoded] at reads
        cases reads with
        | sound packet family start stop headers carries => exact ⟨family, start, stop, headers⟩
      · rintro ⟨family, start, stop, headers⟩
        generalize decode capture = result at reads
        cases reads with
        | fails error broken =>
            rw [headers.keeps_rules] at broken
            cases broken
        | sound packet _ _ _ _ _ => exact ⟨packet, rfl⟩
  case gives =>
      intro packet
      constructor
      · intro decoded
        rw [decoded] at reads
        cases reads with
        | sound packet family start stop headers carries =>
            exact ⟨family, start, stop, headers, carries⟩
      · rintro ⟨family, start, stop, headers, carries⟩
        exact decode_of_carries headers carries
  case refuses =>
      intro error
      constructor
      · intro decoded
        rw [decoded] at reads
        cases reads with
        | fails error broken => exact broken
      · intro broken
        generalize decode capture = result at reads
        cases reads with
        | fails first reported => rw [Option.some.inj (broken.symm.trans reported)]
        | sound packet family start stop headers carries =>
            rw [headers.keeps_rules] at broken
            cases broken
  case within => exact fun family start stop headers => headers.within
  case cuts => exact capture.data.holdsHeaders

end Reassembly
