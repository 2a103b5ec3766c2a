import Reassembly.Proofs.Limits.Durations

/-!
# Loading limits

Members are visited in the order of their names, in which the size stands before the expiry, and
so do the items of a list.  Reading limits is therefore reading the values that stand for the
size, and after them those that stand for the expiry (`Limits.ofValue_eq`): an object and a list
with the same values cannot be told apart, not even by their faults.
-/

set_option autoImplicit false

namespace Reassembly

namespace Limits

open Value

theorem readMembers_cons (limits : Limits) (name : String) (value : Value)
    (rest : List (String × Value)) :
    readMembers limits ((name, value) :: rest) =
      if name = "max_message_size" then
        (value.natural .size).bind fun size => readMembers { limits with maxSize := size } rest
      else if name = "message_expiry" then
        (Duration.ofValue value).bind fun expiry =>
          readMembers { limits with expiry := expiry } rest
      else readMembers limits rest := by
  rw [readMembers]
  cases value.natural .size <;> cases Duration.ofValue value <;> rfl

theorem ofItems_pair (first second : Value) (more : List Value) :
    ofItems (first :: second :: more) =
      (first.natural .size).bind fun size =>
        (Duration.ofValue second).bind fun expiry =>
          if more = [] then .ok ⟨size, expiry⟩ else .error (.tooLong (more.length + 2)) := by
  cases firstRead : first.natural .size with
  | error fault => simp only [ofItems, firstRead, Except.bind]
  | ok size =>
      simp only [ofItems, firstRead, Except.bind]
      cases Duration.ofValue second <;> rfl

def readPlaces (limits : Limits) (size expiry : Option Value) : Except ReadFault Limits :=
  (readOr (Value.natural .size) limits.maxSize size).bind fun size =>
    (readOr Duration.ofValue limits.expiry expiry).bind fun expiry => .ok ⟨size, expiry⟩

/-- In the order of their names the member of the size stands before that of the expiry. -/
theorem readMembers_eq {members : List (String × Value)}
    (ordered : members.Pairwise fun first second => first.1 ≤ second.1)
    (distinct : members.Pairwise fun first second => first.1 ≠ second.1) (limits : Limits) :
    readMembers limits members =
      readPlaces limits (member? "max_message_size" members) (member? "message_expiry" members) := by
  induction members generalizing limits with
  | nil => rfl
  | cons member rest ih =>
      obtain ⟨name, value⟩ := member
      obtain ⟨least, ordered⟩ := List.pairwise_cons.mp ordered
      obtain ⟨fresh, distinct⟩ := List.pairwise_cons.mp distinct
      have alone : member? name rest = none := member?_of_fresh fresh
      rw [readMembers_cons, member?, member?]
      split_ifs with isSize isExpiry isExpiry
      · exact absurd (isSize.symm.trans isExpiry) (by decide)
      · rw [isSize] at alone
        rw [alone, Option.none_or, Option.or_none, readPlaces, readOr]
        cases value.natural .size with
        | error fault => rfl
        | ok size =>
            have later := ih ordered distinct { limits with maxSize := size }
            rw [alone] at later
            exact later
      · have noSize : member? "max_message_size" rest = none := by
          apply member?_eq_none_iff.mpr
          intro member inside isSize
          have before : name ≤ member.1 := least member inside
          rw [isExpiry, isSize] at before
          exact absurd before (by decide)
        rw [isExpiry] at alone
        rw [noSize, alone, Option.none_or, Option.none_or, readPlaces, readOr, Except.bind, readOr]
        cases Duration.ofValue value with
        | error fault => rfl
        | ok expiry =>
            have later := ih ordered distinct { limits with expiry := expiry }
            rw [noSize, alone] at later
            exact later
      · rw [Option.or_none, Option.or_none]
        exact ih ordered distinct limits

theorem ofValue_eq {value : Value} (record : value.IsRecord) :
    Limits.ofValue value = readPlaces unset value.size? value.expiry? := by
  match value with
  | .object members =>
      have read := readMembers_eq (byName_ordered members) (byName_distinct members) unset
      rw [member?_byName, member?_byName] at read
      exact read
  | .list [] => rfl
  | .list [size] =>
      simp only [Limits.ofValue, ofItems, readPlaces, size?, expiry?, List.getElem?_cons_zero,
        List.getElem?_cons_succ, List.getElem?_nil, readOr]
      cases size.natural .size <;> rfl
  | .list [size, expiry] =>
      rw [Limits.ofValue, ofItems_pair]
      simp only [readPlaces, size?, expiry?, List.getElem?_cons_zero, List.getElem?_cons_succ,
        readOr]
      cases size.natural .size with
      | error fault => rfl
      | ok number => cases Duration.ofValue expiry <;> rfl
  | .list (_ :: _ :: _ :: _) =>
      simp only [IsRecord, List.length_cons] at record
      omega

theorem isRecord_of_ofValue {value : Value} {limits : Limits}
    (read : Limits.ofValue value = .ok limits) : value.IsRecord := by
  match value with
  | .object members => trivial
  | .list [] => exact Nat.zero_le 2
  | .list [_] => exact Nat.le_succ 1
  | .list (first :: second :: more) =>
      rw [Limits.ofValue, ofItems_pair] at read
      simp only [bind_eq_ok_iff] at read
      obtain ⟨size, -, expiry, -, whole⟩ := read
      split_ifs at whole with last
      rw [last]
      exact Nat.le_refl 2

theorem ofValue_eq_ok_iff {value : Value} {limits : Limits} :
    Limits.ofValue value = .ok limits ↔
      value.IsRecord ∧ Settles (IsNumber .size) (some 0) value.size? limits.maxSize ∧
        Settles (fun expiry duration => Duration.ofValue expiry = .ok duration)
          (some defaultExpiry) value.expiry? limits.expiry := by
  constructor
  · intro read
    have record := isRecord_of_ofValue read
    rw [ofValue_eq record, readPlaces] at read
    simp only [bind_eq_ok_iff, readOr_eq_ok_iff, natural_eq_ok_iff] at read
    obtain ⟨size, saysSize, expiry, saysExpiry, whole⟩ := read
    cases whole
    exact ⟨record, saysSize, saysExpiry⟩
  · rintro ⟨record, saysSize, saysExpiry⟩
    rw [ofValue_eq record, readPlaces]
    simp only [bind_eq_ok_iff, readOr_eq_ok_iff, natural_eq_ok_iff]
    exact ⟨_, saysSize, _, saysExpiry, rfl⟩

theorem settles_isSpan {value : Option Value} {expiry : Duration}
    (reads : Settles (fun value duration => Duration.ofValue value = .ok duration)
      (some defaultExpiry) value expiry) :
    ∃ span, Settles IsSpan (some Span.unset) value span ∧
      expiry.totalNanos = span.totalNanos := by
  cases value with
  | none =>
      have unset : defaultExpiry = expiry := Option.some.inj reads
      exact ⟨Span.unset, rfl, unset ▸ rfl⟩
  | some value =>
      have read : Duration.ofValue value = .ok expiry := reads
      obtain ⟨span, typed⟩ := Duration.isSpan_of_ofValue read
      exact ⟨span, typed, Duration.totalNanos_of_build (Duration.ofValue_of_isSpan typed ▸ read)⟩

theorem configures_of_ofValue {value : Value} {limits : Limits}
    (read : Limits.ofValue value = .ok limits) :
    ∃ span, value.Configures limits.maxSize span ∧
      limits.expiry.totalNanos = span.totalNanos := by
  obtain ⟨record, saysSize, reads⟩ := ofValue_eq_ok_iff.mp read
  obtain ⟨span, saysExpiry, final⟩ := settles_isSpan reads
  exact ⟨span, ⟨record, saysSize, saysExpiry⟩, final⟩

/-- Of well typed limits nothing but the sum of their expiry can be refused. -/
theorem ofValue_of_configures {value : Value} {size : Nat} {span : Span}
    (typed : value.Configures size span) :
    Limits.ofValue value =
      (Duration.build span.secs span.nanos).bind fun expiry => .ok ⟨size, expiry⟩ := by
  have sized : readOr (Value.natural .size) unset.maxSize value.size? = .ok size := by
    simp only [readOr_eq_ok_iff, natural_eq_ok_iff]
    exact typed.saysSize
  have saysExpiry := typed.saysExpiry
  rw [ofValue_eq typed.record, readPlaces, sized, Except.bind]
  cases given : value.expiry? with
  | none =>
      rw [given] at saysExpiry
      cases saysExpiry
      rfl
  | some expiry =>
      rw [given] at saysExpiry
      have isSpan : expiry.IsSpan span := saysExpiry
      rw [readOr, Duration.ofValue_of_isSpan isSpan]

theorem ofValue_congr {value other : Value} (record : value.IsRecord) (record' : other.IsRecord)
    (size : value.size? = other.size?) (expiry : value.expiry? = other.expiry?) :
    Limits.ofValue value = Limits.ofValue other := by
  rw [ofValue_eq record, ofValue_eq record', size, expiry]

theorem effective_expiry_totalNanos (limits : Limits) :
    limits.effective.expiry.totalNanos = max (10 ^ 8) limits.expiry.totalNanos := by
  have floor : minExpiry.totalNanos = 10 ^ 8 := rfl
  have raised := Duration.totalNanos_max limits.expiry minExpiry
  rw [floor, Nat.max_comm] at raised
  exact raised

end Limits

/-- The sum of a duration is the only fault that can be found in what is read: it is reported just
if it cannot be held. -/
structure Span.OnlyOverflows {α : Type} (span : Span) (read : Except ReadFault α) : Prop where
  refused : read = .error .durationOverflow ↔ 2 ^ 64 * 10 ^ 9 ≤ span.totalNanos
  accepted : (∃ result, read = .ok result) ↔ span.totalNanos < 2 ^ 64 * 10 ^ 9

theorem Span.onlyOverflows_bind {α : Type} (span : Span) (result : Duration → α) :
    span.OnlyOverflows
      ((Duration.build span.secs span.nanos).bind fun duration => .ok (result duration)) := by
  obtain ⟨duration, built, -, room⟩ | ⟨failed, beyond⟩ := Duration.build_cases span
  · rw [built]
    constructor
    case refused => exact ⟨nofun, fun beyond => absurd room (Nat.not_lt.mpr beyond)⟩
    case accepted => exact ⟨fun _ => room, fun _ => ⟨result duration, rfl⟩⟩
  · rw [failed]
    constructor
    case refused => exact ⟨fun _ => beyond, fun _ => rfl⟩
    case accepted => exact ⟨nofun, fun room => absurd room (Nat.not_lt.mpr beyond)⟩

structure Limits.LoadedExactly : Prop where
  /-- What is accepted is well typed, and in force it is what the value says, but for the default
  of the size and the floor under the expiry. -/
  accepted : ∀ value limits, Limits.ofValue value = .ok limits →
    (∃ size span, value.Configures size span) ∧
      ∀ size span, value.Configures size span →
        limits.effective.maxSize = (if size = 0 then 5 * 2 ^ 20 else size) ∧
        limits.effective.expiry.nanos < 10 ^ 9 ∧
        limits.effective.expiry.totalNanos = max (10 ^ 8) span.totalNanos
  /-- Of a well typed duration nothing but its sum is refused. -/
  durations : ∀ (value : Value) (span : Span), value.IsSpan span →
    span.OnlyOverflows (Duration.ofValue value)
  /-- Nor is anything else refused of well typed limits. -/
  expiries : ∀ (value : Value) (size : Nat) (span : Span), value.Configures size span →
    span.OnlyOverflows (Limits.ofValue value)
  /-- An object and a list of the same size and expiry give the same, a fault included, however
  the members are ordered and whatever other members there are. -/
  pairs : ∀ members size expiry, Value.member? "max_message_size" members = some size →
    Value.member? "message_expiry" members = some expiry →
      Limits.ofValue (.object members) = Limits.ofValue (.list [size, expiry])
  singles : ∀ members size, Value.member? "max_message_size" members = some size →
    Value.member? "message_expiry" members = none →
      Limits.ofValue (.object members) = Limits.ofValue (.list [size])
  again : ∀ limits : Limits, limits.effective.effective = limits.effective

theorem Limits.loaded_exactly : LoadedExactly := by
  constructor
  case accepted =>
      intro value limits read
      obtain ⟨span, typed, final⟩ := configures_of_ofValue read
      refine ⟨⟨_, span, typed⟩, ?_⟩
      intro size span' typed'
      obtain ⟨rfl, rfl⟩ := typed.unique typed'
      refine ⟨rfl, limits.effective.expiry.nanos_lt, ?_⟩
      rw [effective_expiry_totalNanos, final]
  case durations =>
      intro value span typed
      have whole : Duration.ofValue value =
          (Duration.build span.secs span.nanos).bind fun duration => .ok duration := by
        rw [Duration.ofValue_of_isSpan typed]
        cases Duration.build span.secs span.nanos <;> rfl
      exact whole ▸ span.onlyOverflows_bind id
  case expiries =>
      intro value size span typed
      rw [ofValue_of_configures typed]
      exact span.onlyOverflows_bind (Limits.mk size)
  case pairs =>
      intro members size expiry sized timed
      have record : (Value.object members).IsRecord := trivial
      exact ofValue_congr record (Nat.le_refl 2) sized timed
  case singles =>
      intro members size sized timed
      have record : (Value.object members).IsRecord := trivial
      exact ofValue_congr record (Nat.le_succ 1) sized timed
  case again => exact effective_effective

theorem Limits.loaded_exactly_carried :
    let expiry : Value := .list [.integer 1, .integer 1500000000]
    let members := [("message_expiry", expiry), ("colour", .null), ("max_message_size", .integer 0)]
    ∃ limits, Limits.ofValue (.object members) = .ok limits ∧
      Limits.ofValue (.list [.integer 0, expiry]) = .ok limits ∧
      limits.effective.maxSize = 5 * 2 ^ 20 ∧ limits.effective.expiry.totalNanos = 2500000000 ∧
      Duration.ofValue (.list [.integer 18446744073709551615, .integer 1000000000]) =
        .error .durationOverflow := by
  intro expiry members
  have same := loaded_exactly.pairs members (.integer 0) expiry rfl rfl
  have read : ∃ limits, Limits.ofValue (.list [.integer 0, expiry]) = .ok limits := ⟨_, rfl⟩
  obtain ⟨limits, read⟩ := read
  have isSpan : expiry.IsSpan ⟨1, 1500000000⟩ := .list ⟨rfl, by decide⟩ ⟨rfl, by decide⟩
  have typed : (Value.list [.integer 0, expiry]).Configures 0 ⟨1, 1500000000⟩ :=
    ⟨Nat.le_refl 2, ⟨rfl, by decide⟩, isSpan⟩
  obtain ⟨size, -, sum⟩ := (loaded_exactly.accepted _ limits read).2 _ _ typed
  -- the carry of a single second leaves the range
  have longest : Value.IsSpan (.list [.integer 18446744073709551615, .integer 1000000000])
      ⟨18446744073709551615, 1000000000⟩ := .list ⟨rfl, by decide⟩ ⟨rfl, by decide⟩
  have refused := (loaded_exactly.durations _ _ longest).refused.mpr (by decide)
  exact ⟨limits, same.trans read, read, size, sum, refused⟩

end Reassembly
