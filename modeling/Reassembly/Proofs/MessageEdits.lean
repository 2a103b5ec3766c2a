import Reassembly.Proofs.Pool.Growth

/-!
# Messages that gather and sort packets

However appending and sorting alternate, all that a message holds but the order of its packets
is what appending alone gives (`Message.editAll_eq`).  Packets with one sequence number never
change places (`Message.editAll_steady`).  A sorted list is settled by that and by its order
(`StablySorted.unique`), so a sort leaves no trace of the sorts before it.
-/

set_option autoImplicit false

namespace Reassembly

/-! ## Stable order -/

/-- Sorting keeps equal items in their order: said by a test that only equal items pass, the
items that pass it are the same list before and after. -/
theorem filter_mergeSort {α : Type} {le : α → α → Bool}
    (trans : ∀ first second third, le first second = true → le second third = true →
      le first third = true)
    (total : ∀ first second, (le first second || le second first) = true) {pass : α → Bool}
    (ties : ∀ first second, pass first = true → pass second = true → le first second = true)
    (items : List α) : (items.mergeSort le).filter pass = items.filter pass := by
  have ordered : (items.filter pass).Pairwise fun first second => le first second = true := by
    apply List.pairwise_of_forall_mem_list
    intro first firstMember second secondMember
    exact ties first second (List.mem_filter.mp firstMember).2 (List.mem_filter.mp secondMember).2
  have kept : (items.filter pass).Sublist (items.mergeSort le) :=
    List.sublist_mergeSort trans total ordered List.filter_sublist
  have inside := kept.filter pass
  have all : (items.filter pass).filter pass = items.filter pass := by
    simp [List.filter_filter]
  rw [all] at inside
  -- nothing else passes, for sorting changes no count
  have sizes := (List.mergeSort_perm items le).filter pass
  exact (inside.eq_of_length sizes.length_eq.symm).symm

def withSeq (seq : UInt32) (packets : List Packet) : List Packet :=
  packets.filter fun packet => decide (packet.seq = seq)

theorem withSeq_append (seq : UInt32) (front back : List Packet) :
    withSeq seq (front ++ back) = withSeq seq front ++ withSeq seq back :=
  List.filter_append front back

def Ascending (packets : List Packet) : Prop :=
  packets.Pairwise fun first second => first.seq ≤ second.seq

/-- Packets in ascending order of their sequence numbers, those with one number as they were given.
-/
structure StablySorted (given sorted : List Packet) : Prop where
  perm : sorted.Perm given
  ascending : Ascending sorted
  steady : ∀ seq, withSeq seq sorted = withSeq seq given

theorem eq_of_ascending {first second : List Packet} (perm : first.Perm second)
    (ascends : Ascending first) (alsoAscends : Ascending second)
    (steady : ∀ seq, withSeq seq first = withSeq seq second) : first = second := by
  induction first generalizing second with
  | nil => exact perm.nil_eq
  | cons packet rest ih =>
      cases second with
      | nil => exact absurd perm.eq_nil (List.cons_ne_nil packet rest)
      | cons other later =>
          obtain ⟨least, restAscends⟩ := List.pairwise_cons.mp ascends
          obtain ⟨alsoLeast, laterAscends⟩ := List.pairwise_cons.mp alsoAscends
          have below : packet.seq ≤ other.seq := by
            rcases List.mem_cons.mp (perm.mem_iff.mpr List.mem_cons_self) with same | inside
            · exact same ▸ UInt32.le_refl _
            · exact least other inside
          have above : other.seq ≤ packet.seq := by
            rcases List.mem_cons.mp (perm.mem_iff.mp List.mem_cons_self) with same | inside
            · exact same ▸ UInt32.le_refl _
            · exact alsoLeast packet inside
          -- both lists begin with the first of the packets that have the least number
          have number : other.seq = packet.seq := UInt32.le_antisymm above below
          have heads := steady packet.seq
          simp only [withSeq, List.filter_cons, number, decide_true, if_true] at heads
          obtain ⟨rfl, -⟩ := List.cons.inj heads
          have tails : rest = later := by
            refine ih perm.cons_inv restAscends laterAscends ?_
            intro seq
            have whole := steady seq
            by_cases own : packet.seq = seq <;>
              simpa [withSeq, List.filter_cons, own] using whole
          rw [tails]

theorem StablySorted.unique {given first second : List Packet} (one : StablySorted given first)
    (other : StablySorted given second) : first = second := by
  refine eq_of_ascending (one.perm.trans other.perm.symm) one.ascending other.ascending ?_
  intro seq
  rw [one.steady, other.steady]

namespace Message

/-! ## One sort -/

theorem seq_le_trans (first second third : Packet)
    (before : decide (first.seq ≤ second.seq) = true)
    (after : decide (second.seq ≤ third.seq) = true) :
    decide (first.seq ≤ third.seq) = true :=
  decide_eq_true (UInt32.le_trans (of_decide_eq_true before) (of_decide_eq_true after))

theorem seq_le_total (first second : Packet) :
    (decide (first.seq ≤ second.seq) || decide (second.seq ≤ first.seq)) = true := by
  simpa using UInt32.le_total first.seq second.seq

theorem sortBySequence_ascending (message : Message) : Ascending message.sortBySequence.packets := by
  have sorted := List.pairwise_mergeSort seq_le_trans seq_le_total message.packets
  exact sorted.imp of_decide_eq_true

theorem sortBySequence_steady (message : Message) (seq : UInt32) :
    withSeq seq message.sortBySequence.packets = withSeq seq message.packets := by
  apply filter_mergeSort seq_le_trans seq_le_total
  intro first second one other
  simp [of_decide_eq_true one, of_decide_eq_true other]

theorem sortBySequence_of_ascending {message : Message} (ascends : Ascending message.packets) :
    message.sortBySequence = message := by
  have sorted := List.mergeSort_of_pairwise (ascends.imp decide_eq_true)
  simp only [sortBySequence, sorted]

/-! ## Many edits -/

def appended (edits : List Edit) : List Packet :=
  edits.filterMap fun
    | .append packet => some packet
    | .sort => none

theorem appended_concat_append (edits : List Edit) (packet : Packet) :
    appended (edits ++ [.append packet]) = appended edits ++ [packet] := by
  simp [appended]

theorem appended_concat_sort (edits : List Edit) : appended (edits ++ [.sort]) = appended edits := by
  simp [appended]

theorem editAll_append (message : Message) (early late : List Edit) :
    message.editAll (early ++ late) = (message.editAll early).editAll late :=
  List.foldl_append

theorem editAll_concat (message : Message) (edits : List Edit) (change : Edit) :
    message.editAll (edits ++ [change]) = (message.editAll edits).edit change :=
  message.editAll_append edits [change]

/-- Sorting touches nothing but the order of the packets. -/
theorem editAll_eq (message : Message) (edits : List Edit) :
    message.editAll edits =
      { message.gather (appended edits) with packets := (message.editAll edits).packets } := by
  induction edits using List.reverseRecOn with
  | nil => rfl
  | append_singleton edits change ih =>
      rw [editAll_concat]
      cases change with
      | append packet =>
          rw [appended_concat_append, gather_concat]
          simp only [edit]
          rw [ih]
          rfl
      | sort =>
          rw [appended_concat_sort]
          simp only [edit]
          rw [ih]
          rfl

theorem editAll_perm (message : Message) (edits : List Edit) :
    (message.editAll edits).packets.Perm (message.packets ++ appended edits) := by
  induction edits using List.reverseRecOn with
  | nil => simp [editAll, appended]
  | append_singleton edits change ih =>
      rw [editAll_concat]
      cases change with
      | append packet =>
          rw [appended_concat_append, ← List.append_assoc]
          exact ih.append_right [packet]
      | sort =>
          rw [appended_concat_sort]
          exact (sortBySequence_perm _).trans ih

/-- Packets with one sequence number stand in the order in which they were appended, whatever
sorts came between them. -/
theorem editAll_steady (message : Message) (edits : List Edit) (seq : UInt32) :
    withSeq seq (message.editAll edits).packets = withSeq seq (message.packets ++ appended edits) := by
  induction edits using List.reverseRecOn with
  | nil => simp [editAll, appended]
  | append_singleton edits change ih =>
      rw [editAll_concat]
      cases change with
      | append packet =>
          rw [appended_concat_append, ← List.append_assoc, withSeq_append, ← ih, ← withSeq_append]
          rfl
      | sort =>
          rw [appended_concat_sort, ← ih]
          exact sortBySequence_steady _ seq

/-- A sort puts all packets that were appended before it in stable order. -/
theorem sorts_editAll (message : Message) (edits : List Edit) :
    StablySorted (message.packets ++ appended edits)
      (message.editAll (edits ++ [.sort])).packets where
  perm := by
    have same := message.editAll_perm (edits ++ [.sort])
    rwa [appended_concat_sort] at same
  ascending := by
    rw [editAll_concat]
    exact sortBySequence_ascending _
  steady := by
    intro seq
    have same := message.editAll_steady (edits ++ [.sort]) seq
    rwa [appended_concat_sort] at same

/-- What a sort gives is told by the packets that were appended before it. -/
theorem editAll_sort_congr (message : Message) {first second : List Edit}
    (same : appended first = appended second) :
    message.editAll (first ++ [.sort]) = message.editAll (second ++ [.sort]) := by
  have one := message.sorts_editAll first
  have other := message.sorts_editAll second
  rw [← same] at other
  rw [message.editAll_eq (first ++ [Edit.sort]), message.editAll_eq (second ++ [Edit.sort]),
    appended_concat_sort, appended_concat_sort, same, one.unique other]

theorem editAll_unsorted (message : Message) {edits : List Edit} (unsorted : .sort ∉ edits) :
    (message.editAll edits).packets = message.packets ++ appended edits := by
  induction edits using List.reverseRecOn with
  | nil => simp [editAll, appended]
  | append_singleton edits change ih =>
      have earlier : .sort ∉ edits := fun member => unsorted (List.mem_append_left _ member)
      rw [editAll_concat]
      cases change with
      | append packet =>
          rw [appended_concat_append, ← List.append_assoc, ← ih earlier]
          rfl
      | sort => exact absurd (List.mem_append_right _ List.mem_cons_self) unsorted

/-! ## What a message holds -/

/-- A message that was blank holds what was appended: data and statistics are read off the
appended packets, and the packets stand in stable order up to the last sort and in the order
of appending from there on. -/
structure Holds (blank : Message) (edits : List Edit) : Prop where
  data : (blank.editAll edits).data = (appended edits).flatMap Packet.payload
  stats : (blank.editAll edits).stats = { blank.stats with
    lostData := ((appended edits).map fun packet => packet.lost.toNat).sum
    length := (blank.editAll edits).data.length
    latest := (appended edits).getLast?.map Packet.timestamp }
  lost_lt : (appended edits).length < 2 ^ 32 → (blank.editAll edits).stats.lostData < 2 ^ 64
  unsorted : .sort ∉ edits → (blank.editAll edits).packets = appended edits
  sorted : ∀ early late, edits = early ++ .sort :: late → .sort ∉ late →
    ∃ front, StablySorted (appended early) front ∧
      (∀ other, StablySorted (appended early) other → other = front) ∧
      (blank.editAll edits).packets = front ++ appended late
  /-- Sorts before the last one make no difference. -/
  forgets : ∀ other, appended other = appended edits →
    blank.editAll (other ++ [.sort]) = blank.editAll (edits ++ [.sort])
  settled : blank.editAll (edits ++ [.sort, .sort]) = blank.editAll (edits ++ [.sort])

theorem editAll_holds (src dst : Endpoint) (version : UInt8) (edits : List Edit) :
    (empty src dst version).Holds edits := by
  have whole := (empty src dst version).editAll_eq edits
  rw [gather_eq] at whole
  have data : ((empty src dst version).editAll edits).data =
      (appended edits).flatMap Packet.payload := by
    rw [whole]
    exact List.nil_append _
  have stats := congrArg Message.stats whole
  constructor
  case data => exact data
  case stats =>
      rw [stats, data]
      simp [empty, List.length_flatMap]
  case lost_lt =>
      intro few
      have total := sum_lost_le (appended edits)
      rw [stats]
      simp only [empty, Nat.zero_add]
      omega
  case unsorted => exact (empty src dst version).editAll_unsorted
  case sorted =>
      rintro early late rfl unsorted
      have front := (empty src dst version).sorts_editAll early
      refine ⟨_, front, fun other also => also.unique front, ?_⟩
      rw [List.append_cons, editAll_append]
      exact editAll_unsorted _ unsorted
  case forgets =>
      intro other same
      exact (empty src dst version).editAll_sort_congr same
  case settled =>
      rw [List.append_cons, editAll_concat, editAll_concat]
      exact sortBySequence_of_ascending (sortBySequence_ascending _)

-- the first sort comes too early to order the packets, and the packet behind the last one stays there
example :
    let host : Endpoint := .v4 ⟨#v[10, 0, 0, 1]⟩ 80
    let append (seq : UInt32) (byte : UInt8) : Edit :=
      .append { Packet.between host host with seq := seq, payload := [byte] }
    let edited := (empty host host 4).editAll
      [append 30 1, .sort, append 10 2, append 30 3, .sort, append 20 4]
    edited.packets.map Packet.payload = [[2], [1], [3], [4]] ∧ edited.data = [1, 2, 3, 4] := by
  cbv

end Message

end Reassembly
