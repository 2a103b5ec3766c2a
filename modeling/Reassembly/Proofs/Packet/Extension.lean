import Reassembly.Proofs.Packet.Reading

/-!
# Reading a longer capture

Headers are known by the bytes up to their end, so two captures that agree so far have the same
headers (`Bytes.HasHeaders.transfer`), whichever of them is the longer one.  Only where the segment
ends depends on the rest: at the claimed end, as far as it was captured.  Of the bytes that are put
behind a capture, its packet therefore takes those that the datagram still claims and no others
(`Packet.decode_followedBy`).
-/

set_option autoImplicit false

namespace Reassembly

def Family.addressSize : Family → Nat
  | .v4 => 4
  | .v6 => 16

namespace Bytes

/-- Where the IP header claims that its datagram ends.  A total length of zero, which an IPv4
header may have, claims no end; a payload length of zero claims the end of the IPv6 header. -/
def claimedStop? (data : Bytes) : Option Nat :=
  if data.version = 4 then
    if data.wordAt 2 = 0 then none else some (data.wordAt 2)
  else some (40 + data.wordAt 4)

/-- The bytes behind data that belong to its datagram: those before the claimed end, or all of
them where no end is claimed. -/
def remainder (data more : Bytes) : Bytes :=
  match data.claimedStop? with
  | none => more
  | some stop => more.take (stop - data.length)

def headersStop (data : Bytes) : Nat :=
  data.segmentStart + 4 * data.offsetWords data.segmentStart

theorem segmentStop_eq (data : Bytes) :
    data.segmentStop =
      match data.claimedStop? with
      | none => data.length
      | some stop => min data.length stop := by
  unfold segmentStop claimedStop?
  split_ifs <;> rfl

/-! ## Fields of the front -/

theorem byteAt_append_left {front : Bytes} (back : Bytes) {position : Nat}
    (inside : position < front.length) :
    (front ++ back).byteAt position = front.byteAt position := by
  rw [byteAt, byteAt, List.getD_eq_getElem?_getD, List.getElem?_append_left inside,
    ← List.getD_eq_getElem?_getD]

theorem wordAt_append_left {front : Bytes} (back : Bytes) {position : Nat}
    (inside : position + 1 < front.length) :
    (front ++ back).wordAt position = front.wordAt position := by
  rw [wordAt, wordAt, byteAt_append_left back inside,
    byteAt_append_left back (Nat.lt_of_succ_lt inside)]

theorem longAt_append_left {front : Bytes} (back : Bytes) {position : Nat}
    (inside : position + 3 < front.length) :
    (front ++ back).longAt position = front.longAt position := by
  rw [longAt, longAt, wordAt_append_left back inside, wordAt_append_left back (by omega)]

theorem slice_append_left {front : Bytes} (back : Bytes) {start stop : Nat}
    (inside : stop ≤ front.length) : (front ++ back).slice start stop = front.slice start stop := by
  rw [slice, slice, List.take_append_of_le_length inside]

theorem HasEndpoint.append {data : Bytes} {host port : Nat} {family : Family}
    {endpoint : Endpoint} (stands : data.HasEndpoint host port family endpoint) (more : Bytes)
    (hostRoom : host + family.addressSize ≤ data.length) (portRoom : port + 1 < data.length) :
    (data ++ more).HasEndpoint host port family endpoint := by
  have place := wordAt_append_left more portRoom
  cases stands with
  | v4 address number bytes digits =>
      exact .v4 address number (bytes.trans (slice_append_left more hostRoom).symm)
        (digits.trans place.symm)
  | v6 address number bytes digits =>
      exact .v6 address number (bytes.trans (slice_append_left more hostRoom).symm)
        (digits.trans place.symm)

/-! ## Data that agree on their headers -/

def AgreeBelow (bound : Nat) (data other : Bytes) : Prop :=
  ∀ position < bound, other.byteAt position = data.byteAt position

theorem AgreeBelow.wordAt {bound position : Nat} {data other : Bytes}
    (agree : AgreeBelow bound data other) (inside : position + 1 < bound) :
    other.wordAt position = data.wordAt position := by
  rw [Bytes.wordAt, Bytes.wordAt, agree _ inside, agree _ (Nat.lt_of_succ_lt inside)]

theorem AgreeBelow.of_le {bound bound' : Nat} {data other : Bytes}
    (agree : AgreeBelow bound data other) (less : bound' ≤ bound) :
    AgreeBelow bound' data other :=
  fun position inside => agree position (Nat.lt_of_lt_of_le inside less)

theorem agreeBelow_append (data more : Bytes) {bound : Nat} (inside : bound ≤ data.length) :
    AgreeBelow bound data (data ++ more) :=
  fun _ below => byteAt_append_left more (Nat.lt_of_lt_of_le below inside)

theorem AgreeBelow.symm {bound : Nat} {data other : Bytes} (agree : AgreeBelow bound data other) :
    AgreeBelow bound other data :=
  fun position inside => (agree position inside).symm

namespace HasIpHeader

variable {data other : Bytes} {family : Family} {start stop : Nat}

theorem least_le (header : data.HasIpHeader family start stop) : 20 ≤ start := by
  cases header with
  | v4 version fixed least whole transport claimed => omega
  | v6 version fixed transport => decide

theorem src_le (header : data.HasIpHeader family start stop) :
    family.srcPlace + family.addressSize ≤ data.length := by
  cases header with
  | v4 version fixed least whole transport claimed => exact Nat.le_trans (by decide) fixed
  | v6 version fixed transport => exact Nat.le_trans (by decide) fixed

theorem dst_le (header : data.HasIpHeader family start stop) :
    family.dstPlace + family.addressSize ≤ data.length := by
  cases header with
  | v4 version fixed least whole transport claimed => exact Nat.le_trans (by decide) fixed
  | v6 version fixed transport => exact Nat.le_trans (by decide) fixed

theorem transfer (header : data.HasIpHeader family start stop) (room : start ≤ other.length)
    (agree : AgreeBelow start data other) :
    other.HasIpHeader family start other.segmentStop ∧
      other.claimedStop? = data.claimedStop? := by
  have fixed := header.least_le
  have first : other.byteAt 0 = data.byteAt 0 := agree 0 (by omega)
  have same : other.version = data.version := by rw [Bytes.version, first, Bytes.version]
  have total : other.wordAt 2 = data.wordAt 2 := agree.wordAt (by omega)
  have payload : other.wordAt 4 = data.wordAt 4 := agree.wordAt (by omega)
  have claims : other.claimedStop? = data.claimedStop? := by
    rw [claimedStop?, claimedStop?, same, total, payload]
  refine ⟨?_, claims⟩
  cases header with
  | v4 version _ least whole transport claimed =>
      have words : other.headerWords = data.headerWords := by
        rw [headerWords, first, headerWords]
      have protocol : other.byteAt 9 = data.byteAt 9 := agree 9 (by omega)
      have moved := HasIpHeader.v4 (same.trans version) (by omega) (words ▸ least)
        (words ▸ room) (protocol.trans transport) (by omega)
      rw [moved.stop_eq] at moved
      rwa [words] at moved
  | v6 version _ transport =>
      have protocol : other.byteAt 6 = data.byteAt 6 := agree 6 (by omega)
      have moved := HasIpHeader.v6 (same.trans version) room (protocol.trans transport)
      rwa [moved.stop_eq] at moved

end HasIpHeader

theorem HasHeaders.headersStop_eq {data : Bytes} {family : Family} {start stop : Nat}
    (headers : data.HasHeaders family start stop) :
    data.headersStop = start + 4 * data.offsetWords start := by
  rw [headersStop, ← headers.ip.start_eq]

/-- Data with the bytes of both headers has them as its own: the claimed end is behind them, and
so is the end of the data. -/
theorem HasHeaders.transfer {data other : Bytes} {family : Family} {start stop : Nat}
    (headers : data.HasHeaders family start stop) (room : data.headersStop ≤ other.length)
    (agree : AgreeBelow data.headersStop data other) :
    other.HasHeaders family start other.segmentStop ∧
      other.headersStop = data.headersStop ∧ other.claimedStop? = data.claimedStop? := by
  have least := headers.least
  have within := headers.within.1
  have stops : stop = data.segmentStop := headers.ip.stop_eq
  rw [segmentStop_eq] at stops
  rw [headers.headersStop_eq] at room agree ⊢
  obtain ⟨ip, claims⟩ := headers.ip.transfer (by omega) (agree.of_le (by omega))
  have words : other.offsetWords start = data.offsetWords start := by
    rw [offsetWords, agree _ (by omega), offsetWords]
  have behind : start + 4 * data.offsetWords start ≤ other.segmentStop := by
    rw [segmentStop_eq, claims]
    cases claimed : data.claimedStop? with
    | none => exact room
    | some stop =>
        rw [claimed] at stops
        dsimp only at stops ⊢
        omega
  have moved : other.HasHeaders family start other.segmentStop :=
    ⟨ip, by omega, words ▸ least, by omega⟩
  exact ⟨moved, by rw [moved.headersStop_eq, words], claims⟩

theorem HasHeaders.headersStop_le {data : Bytes} {family : Family} {start stop : Nat}
    (headers : data.HasHeaders family start stop) : data.headersStop ≤ data.length := by
  rw [headers.headersStop_eq]
  exact Nat.le_trans headers.within.1 headers.within.2

theorem HasHeaders.append {data : Bytes} {family : Family} {start stop : Nat}
    (headers : data.HasHeaders family start stop) (more : Bytes) :
    (data ++ more).HasHeaders family start (data ++ more).segmentStop ∧
      (data ++ more).headersStop = data.headersStop ∧
      (data ++ more).claimedStop? = data.claimedStop? := by
  have inside := headers.headersStop_le
  apply headers.transfer
  · rw [List.length_append]
    omega
  · exact agreeBelow_append data more inside

theorem take_segmentStop_append {data more : Bytes}
    (claims : (data ++ more).claimedStop? = data.claimedStop?) :
    (data ++ more).take (data ++ more).segmentStop =
      data.take data.segmentStop ++ data.remainder more := by
  rw [segmentStop_eq, segmentStop_eq, remainder, claims]
  cases data.claimedStop? with
  | none =>
      dsimp only
      rw [List.take_length, List.take_length]
  | some stop =>
      dsimp only
      rw [Nat.min_comm, Nat.min_comm data.length, ← List.take_eq_take_min,
        ← List.take_eq_take_min, List.take_append]

end Bytes

/-! ## The packet -/

def Capture.followedBy (capture : Capture) (more : Bytes) : Capture :=
  { capture with data := capture.data ++ more }

namespace Capture

variable {capture : Capture} {family : Family} {start stop : Nat}

theorem Carries.append {packet : Packet} (carries : capture.Carries family start stop packet)
    (headers : capture.data.HasHeaders family start stop) (more : Bytes)
    (claims : (capture.data ++ more).claimedStop? = capture.data.claimedStop?) :
    (capture.followedBy more).Carries family start (capture.data ++ more).segmentStop
      { packet with payload := packet.payload ++ capture.data.remainder more } := by
  have fixed := headers.fixed
  obtain ⟨before, inside⟩ := headers.within
  have words : (capture.data ++ more).offsetWords start = capture.data.offsetWords start := by
    rw [Bytes.offsetWords, Bytes.byteAt_append_left more (by omega), Bytes.offsetWords]
  have flags : (capture.data ++ more).byteAt (start + 13) = capture.data.byteAt (start + 13) :=
    Bytes.byteAt_append_left more (by omega)
  constructor
  case version => exact carries.version
  case src => exact carries.src.append more headers.ip.src_le (by omega)
  case dst => exact carries.dst.append more headers.ip.dst_le (by omega)
  case seq => exact carries.seq.trans (Bytes.longAt_append_left more (by omega)).symm
  case fin => exact flags ▸ carries.fin
  case syn => exact flags ▸ carries.syn
  case rst => exact flags ▸ carries.rst
  case ack => exact flags ▸ carries.ack
  case payload =>
      change _ = (capture.data ++ more).slice
        (start + 4 * (capture.data ++ more).offsetWords start) _
      have length : (capture.data.take stop).length = stop := by
        rw [List.length_take, Nat.min_eq_left inside]
      rw [words, Bytes.slice, Bytes.take_segmentStop_append claims, ← headers.ip.stop_eq,
        List.drop_append_of_le_length (by omega), carries.payload, Bytes.slice]
  case timestamp => exact carries.timestamp
  case lost => exact carries.lost

end Capture

theorem Packet.headers_of_decode {capture : Capture} {packet : Packet}
    (decoded : Packet.decode capture = .ok packet) :
    ∃ family start stop, capture.data.HasHeaders family start stop ∧
      capture.Carries family start stop packet := by
  have reads := decode_reads capture
  rw [decoded] at reads
  cases reads with
  | sound packet family start stop headers carries => exact ⟨family, start, stop, headers, carries⟩

theorem Packet.decode_of_headers {capture : Capture} {family : Family} {start stop : Nat}
    (headers : capture.data.HasHeaders family start stop) :
    ∃ packet, Packet.decode capture = .ok packet := by
  have reads := decode_reads capture
  generalize decode capture = result at reads
  cases reads with
  | fails error broken =>
      rw [headers.keeps_rules] at broken
      cases broken
  | sound packet _ _ _ _ _ => exact ⟨packet, rfl⟩

theorem Packet.decode_followedBy {capture : Capture} {packet : Packet}
    (decoded : Packet.decode capture = .ok packet) (more : Bytes) :
    Packet.decode (capture.followedBy more) =
      .ok { packet with payload := packet.payload ++ capture.data.remainder more } := by
  obtain ⟨family, start, stop, headers, carries⟩ := headers_of_decode decoded
  obtain ⟨moved, -, claims⟩ := headers.append more
  exact decode_of_carries moved (carries.append headers more claims)

/-- Of a capture that can be read, a front with both headers can be read too. -/
theorem Packet.decode_of_followedBy {capture : Capture} {more : Bytes} {longer : Packet}
    (decoded : Packet.decode (capture.followedBy more) = .ok longer)
    (inside : (capture.data ++ more).headersStop ≤ capture.data.length) :
    ∃ packet, Packet.decode capture = .ok packet := by
  obtain ⟨family, start, stop, headers, -⟩ := headers_of_decode decoded
  have agree := (Bytes.agreeBelow_append capture.data more inside).symm
  exact decode_of_headers (headers.transfer inside agree).1

/-- Reading a capture, and reading it with bytes behind it. -/
structure Capture.Continues (capture : Capture) (more : Bytes) : Prop where
  /-- The packets differ in the payload alone, which is continued. -/
  grows : ∀ packet, Packet.decode capture = .ok packet →
    ∃ longer, Packet.decode (capture.followedBy more) = .ok longer ∧
      longer = { packet with payload := longer.payload } ∧ packet.payload <+: longer.payload
  /-- The payload is continued by what the datagram still claims. -/
  takes : ∀ packet longer, Packet.decode capture = .ok packet →
    Packet.decode (capture.followedBy more) = .ok longer →
      longer.payload = packet.payload ++ capture.data.remainder more
  /-- Behind the claimed end is padding. -/
  padded : ∀ packet stop, Packet.decode capture = .ok packet →
    capture.data.claimedStop? = some stop → stop ≤ capture.data.length →
      Packet.decode (capture.followedBy more) = .ok packet
  /-- The shorter capture can be read just if it has both headers. -/
  cut : ∀ longer, Packet.decode (capture.followedBy more) = .ok longer →
    ((∃ packet, Packet.decode capture = .ok packet) ↔
      (capture.data ++ more).headersStop ≤ capture.data.length)

theorem Packet.decode_continues (capture : Capture) (more : Bytes) : capture.Continues more := by
  constructor
  case grows =>
      intro packet decoded
      exact ⟨_, decode_followedBy decoded more, rfl, List.prefix_append ..⟩
  case takes =>
      intro packet longer decoded decodedLonger
      rw [decode_followedBy decoded more] at decodedLonger
      cases decodedLonger
      rfl
  case padded =>
      intro packet stop decoded claimed before
      have nothing : capture.data.remainder more = [] := by
        simp only [Bytes.remainder, claimed, Nat.sub_eq_zero_of_le before, List.take_zero]
      rw [decode_followedBy decoded more, nothing, List.append_nil]
  case cut =>
      intro longer decodedLonger
      constructor
      · rintro ⟨packet, decoded⟩
        obtain ⟨family, start, stop, headers, -⟩ := headers_of_decode decoded
        rw [(headers.append more).2.1]
        exact headers.headersStop_le
      · exact decode_of_followedBy decodedLonger

/-- A capture that lacks the last of the 42 bytes of its datagram. -/
def Capture.clipped : Capture where
  data :=
    [0x45, 0, 0, 42, 0, 0, 0, 0, 64, 6, 0, 0, 10, 0, 0, 1, 10, 0, 0, 2,
      0x0f, 0xa0, 0, 80, 0, 0, 0, 7, 0, 0, 0, 0, 0x50, 0x10, 0, 0, 0, 0, 0, 0, 104]
  timestamp := .epoch
  lost := 0

theorem Packet.decode_continues_clipped :
    ∃ packet longer, Packet.decode .clipped = .ok packet ∧ packet.payload = [104] ∧
      longer = { packet with payload := [104, 105] } ∧
      Packet.decode (Capture.clipped.followedBy [105]) = .ok longer ∧
      Packet.decode ((Capture.clipped.followedBy [105]).followedBy [0, 0]) = .ok longer := by
  have decoded : ∃ packet, Packet.decode .clipped = .ok packet ∧ packet.payload = [104] :=
    ⟨_, rfl, rfl⟩
  obtain ⟨packet, decoded, short⟩ := decoded
  have continues := decode_continues .clipped [105]
  obtain ⟨longer, decodedLonger, same, -⟩ := continues.grows packet decoded
  have payload := continues.takes packet longer decoded decodedLonger
  have rest : Capture.clipped.data.remainder [105] = [105] := by decide
  rw [short, rest] at payload
  rw [payload] at same
  -- the datagram is complete now, so that what follows is padding
  have padded := (decode_continues (Capture.clipped.followedBy [105]) [0, 0]).padded longer 42
    decodedLonger (by decide) (by decide)
  exact ⟨packet, longer, decoded, short, same, decodedLonger, padded⟩

end Reassembly
