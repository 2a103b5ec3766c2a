import Mathlib.Algebra.GroupWithZero.Nat
import Mathlib.Tactic.SplitIfs
import Reassembly.Limits.Shape

/-!
# Reading durations

Of several members with one name the last counts, and each that counts is visited once
(`Value.member?_byName`).  A value is a well typed duration just if its two numbers can be read,
and then it is what `Duration.build` makes of them (`Duration.ofValue_of_isSpan`), which carries
the nanoseconds and refuses nothing but a sum that cannot be held.
-/

set_option autoImplicit false

namespace Reassembly

/-! ## Sums of nanoseconds -/

namespace Duration

theorem totalNanos_max (first second : Duration) :
    (first.max second).totalNanos = Max.max first.totalNanos second.totalNanos := by
  have order := le_iff_totalNanos first second
  rw [max]
  split_ifs with below
  · exact (Nat.max_eq_right (order.mp below)).symm
  · have above : ¬first.totalNanos ≤ second.totalNanos := mt order.mpr below
    exact (Nat.max_eq_left (by omega)).symm

/-- The carry brings every sum that can be held into the two parts, and no other. -/
theorem build_cases (span : Span) :
    (∃ duration, build span.secs span.nanos = .ok duration ∧
      duration.totalNanos = span.totalNanos ∧ span.totalNanos < 2 ^ 64 * 10 ^ 9) ∨
    (build span.secs span.nanos = .error .durationOverflow ∧
      2 ^ 64 * 10 ^ 9 ≤ span.totalNanos) := by
  unfold build ofParts?
  by_cases room : span.secs + span.nanos / nanosPerSec < secsBound
  · left
    rw [dif_pos room]
    refine ⟨_, rfl, ?_, ?_⟩ <;>
      simp only [totalNanos, Span.totalNanos, nanosPerSec, secsBound] at * <;> omega
  · right
    rw [dif_neg room]
    refine ⟨rfl, ?_⟩
    simp only [Span.totalNanos, nanosPerSec, secsBound] at *
    omega

theorem totalNanos_of_build {span : Span} {duration : Duration}
    (built : build span.secs span.nanos = .ok duration) :
    duration.totalNanos = span.totalNanos := by
  obtain ⟨other, success, sum, -⟩ | ⟨failure, -⟩ := build_cases span
  · rw [success] at built
    cases built
    exact sum
  · rw [failure] at built
    cases built

end Duration

theorem bind_eq_ok_iff {α β : Type} {read : Except ReadFault α}
    {next : α → Except ReadFault β} {final : β} :
    read.bind next = .ok final ↔ ∃ said, read = .ok said ∧ next said = .ok final := by
  cases read <;> simp [Except.bind]

/-! ## Values that stand for one thing -/

namespace Value

theorem IsNumber.unique {place : Expected} {value : Value} {first second : Nat}
    (one : value.IsNumber place first) (other : value.IsNumber place second) : first = second :=
  Int.ofNat.inj (Value.integer.inj (one.1.symm.trans other.1))

theorem Settles.unique {α : Type} {Says : Value → α → Prop}
    (functional : ∀ value one other, Says value one → Says value other → one = other)
    {before : Option α} {value : Option Value} {first second : α}
    (one : Settles Says before value first) (other : Settles Says before value second) :
    first = second := by
  cases value with
  | none => exact Option.some.inj (one.symm.trans other)
  | some value => exact functional value first second one other

theorem IsSpan.unique {value : Value} {first second : Span} (one : value.IsSpan first)
    (other : value.IsSpan second) : first = second := by
  cases one with
  | object known saysSecs saysNanos =>
      cases other with
      | object known' saysSecs' saysNanos' =>
          have sameSecs := saysSecs.unique (fun _ _ _ one other => one.unique other) saysSecs'
          have sameNanos := saysNanos.unique (fun _ _ _ one other => one.unique other) saysNanos'
          rw [sameSecs, sameNanos]
  | list saysSecs saysNanos =>
      cases other with
      | list saysSecs' saysNanos' => rw [saysSecs.unique saysSecs', saysNanos.unique saysNanos']

theorem Configures.unique {value : Value} {size size' : Nat} {span span' : Span}
    (one : value.Configures size span) (other : value.Configures size' span') :
    size = size' ∧ span = span' :=
  ⟨one.saysSize.unique (fun _ _ _ first second => first.unique second) other.saysSize,
    one.saysExpiry.unique (fun _ _ _ first second => first.unique second) other.saysExpiry⟩

def readOr {α : Type} (read : Value → Except ReadFault α) (unset : α) :
    Option Value → Except ReadFault α
  | none => .ok unset
  | some value => read value

theorem readOr_eq_ok_iff {α : Type} {read : Value → Except ReadFault α} {unset final : α}
    {value : Option Value} :
    readOr read unset value = .ok final ↔
      Settles (fun value said => read value = .ok said) (some unset) value final := by
  cases value <;> simp [readOr, Settles]

theorem natural_eq_ok_iff {place : Expected} {value : Value} {number : Nat} :
    value.natural place = .ok number ↔ value.IsNumber place number := by
  constructor
  · intro read
    cases value with
    | integer given =>
        simp only [natural] at read
        split_ifs at read with fits
        cases read
        refine ⟨?_, by omega⟩
        rw [Int.toNat_of_nonneg fits.1]
    | _ => cases read
  · rintro ⟨rfl, room⟩
    have fits : (0 : Int) ≤ number ∧ (number : Int) < place.bound := by omega
    rw [natural, if_pos fits, Int.toNat_natCast]

/-! ## Members and their names -/

theorem member?_eq_none_iff {name : String} {members : List (String × Value)} :
    member? name members = none ↔ ∀ member ∈ members, member.1 ≠ name := by
  induction members with
  | nil => simp [member?]
  | cons member rest ih =>
      rw [member?, Option.or_eq_none_iff, ih, List.forall_mem_cons, and_comm]
      simp

theorem member?_of_fresh {name : String} {members : List (String × Value)}
    (fresh : ∀ member ∈ members, name ≠ member.1) : member? name members = none :=
  member?_eq_none_iff.mpr fun member inside => Ne.symm (fresh member inside)

/-- Where no two members have one name, the last of a name is the one. -/
theorem member?_eq_some_iff {members : List (String × Value)}
    (distinct : members.Pairwise fun first second => first.1 ≠ second.1) {name : String}
    {value : Value} : member? name members = some value ↔ (name, value) ∈ members := by
  induction members with
  | nil => simp [member?]
  | cons member rest ih =>
      obtain ⟨other, own⟩ := member
      obtain ⟨fresh, distinct⟩ := List.pairwise_cons.mp distinct
      rw [member?, Option.or_eq_some_iff, ih distinct, member?_eq_none_iff, List.mem_cons]
      constructor
      · rintro (later | ⟨-, here⟩)
        · exact Or.inr later
        · split_ifs at here with same
          cases here
          exact Or.inl (Prod.ext same.symm rfl)
      · rintro (here | later)
        · cases here
          exact Or.inr ⟨fun member inside => Ne.symm (fresh member inside), if_pos rfl⟩
        · exact Or.inl later

theorem latest_sublist (members : List (String × Value)) :
    (latest members).Sublist members := by
  induction members with
  | nil => exact .slnil
  | cons member rest ih =>
      rw [latest]
      split_ifs
      · exact ih.cons member
      · exact ih.cons_cons member

theorem latest_distinct (members : List (String × Value)) :
    (latest members).Pairwise fun first second => first.1 ≠ second.1 := by
  induction members with
  | nil => exact .nil
  | cons member rest ih =>
      rw [latest]
      split_ifs with replaced
      · exact ih
      · refine List.pairwise_cons.mpr ⟨?_, ih⟩
        intro other inside same
        have listed := (latest_sublist rest).subset inside
        exact replaced (List.any_eq_true.mpr ⟨other, listed, decide_eq_true same.symm⟩)

theorem member?_latest (name : String) (members : List (String × Value)) :
    member? name (latest members) = member? name members := by
  induction members with
  | nil => rfl
  | cons member rest ih =>
      obtain ⟨other, value⟩ := member
      rw [latest]
      split_ifs with replaced
      · rw [ih, member?]
        by_cases same : other = name
        · -- the later member of the same name is the one that counts
          obtain ⟨later, listed, equal⟩ := List.any_eq_true.mp replaced
          have counts : member? name rest ≠ none := by
            intro none
            exact member?_eq_none_iff.mp none later listed ((of_decide_eq_true equal).trans same)
          obtain ⟨counted, found⟩ := Option.ne_none_iff_exists'.mp counts
          rw [found, Option.some_or]
        · rw [if_neg same, Option.or_none]
      · rw [member?, ih, member?]

theorem byName_distinct (members : List (String × Value)) :
    (byName members).Pairwise fun first second => first.1 ≠ second.1 :=
  (latest_distinct members).perm (List.mergeSort_perm ..).symm Ne.symm

theorem byName_ordered (members : List (String × Value)) :
    (byName members).Pairwise fun first second => first.1 ≤ second.1 := by
  have trans : ∀ first second third : String × Value, decide (first.1 ≤ second.1) = true →
      decide (second.1 ≤ third.1) = true → decide (first.1 ≤ third.1) = true := by
    intro first second third before after
    exact decide_eq_true (String.le_trans (of_decide_eq_true before) (of_decide_eq_true after))
  have total : ∀ first second : String × Value,
      (decide (first.1 ≤ second.1) || decide (second.1 ≤ first.1)) = true := by
    intro first second
    simpa using String.le_total first.1 second.1
  exact (List.pairwise_mergeSort trans total (latest members)).imp of_decide_eq_true

theorem member?_byName (name : String) (members : List (String × Value)) :
    member? name (byName members) = member? name members := by
  rw [← member?_latest name members]
  apply Option.ext
  intro value
  rw [member?_eq_some_iff (byName_distinct members),
    member?_eq_some_iff (latest_distinct members)]
  exact (List.mergeSort_perm ..).mem_iff

theorem forall_byName_iff (known : String → Prop) {members : List (String × Value)} :
    (∀ member ∈ byName members, known member.1) ↔ ∀ member ∈ members, known member.1 := by
  constructor
  · intro all member inside
    have counts : member? member.1 (byName members) ≠ none := by
      rw [member?_byName]
      exact fun none => member?_eq_none_iff.mp none member inside rfl
    obtain ⟨value, found⟩ := Option.ne_none_iff_exists'.mp counts
    exact all (member.1, value) ((member?_eq_some_iff (byName_distinct members)).mp found)
  · intro all member inside
    have listed : member ∈ latest members := (List.mergeSort_perm ..).mem_iff.mp inside
    exact all member ((latest_sublist members).subset listed)

end Value

/-! ## Durations -/

namespace Duration

open Value

theorem readMembers_cons (parts : Parts) (name : String) (value : Value)
    (rest : List (String × Value)) :
    readMembers parts ((name, value) :: rest) =
      if name = "secs" then
        (value.natural .seconds).bind fun secs =>
          readMembers { parts with secs := some secs } rest
      else if name = "nanos" then
        (value.natural .nanoseconds).bind fun nanos =>
          readMembers { parts with nanos := some nanos } rest
      else .error (.unknownField name) := by
  rw [readMembers]
  cases value.natural .seconds <;> cases value.natural .nanoseconds <;> rfl

/-- The members of a duration are read without a fault just if there are no others and all are
numbers. -/
theorem readMembers_eq_ok_iff {parts : Parts} {members : List (String × Value)}
    (distinct : members.Pairwise fun first second => first.1 ≠ second.1) {secs nanos : Nat} :
    readMembers parts members = .ok ⟨some secs, some nanos⟩ ↔
      (∀ member ∈ members, member.1 = "secs" ∨ member.1 = "nanos") ∧
        Settles (IsNumber .seconds) parts.secs (member? "secs" members) secs ∧
          Settles (IsNumber .nanoseconds) parts.nanos (member? "nanos" members) nanos := by
  induction members generalizing parts with
  | nil =>
      obtain ⟨before, before'⟩ := parts
      simp [readMembers, member?, Settles]
  | cons member rest ih =>
      obtain ⟨name, value⟩ := member
      obtain ⟨fresh, distinct⟩ := List.pairwise_cons.mp distinct
      have alone : member? name rest = none := member?_of_fresh fresh
      rw [List.forall_mem_cons, member?, member?, readMembers_cons]
      dsimp only
      split_ifs with isSecs isNanos isNanos
      · exact absurd (isSecs.symm.trans isNanos) (by decide)
      · rw [isSecs] at alone
        simp only [bind_eq_ok_iff, natural_eq_ok_iff, ih distinct, alone, Option.none_or,
          Option.or_none, Settles, Option.some.injEq]
        constructor
        · rintro ⟨said, here, known, rfl, saysNanos⟩
          exact ⟨⟨.inl isSecs, known⟩, here, saysNanos⟩
        · rintro ⟨⟨-, known⟩, here, saysNanos⟩
          exact ⟨secs, here, known, rfl, saysNanos⟩
      · rw [isNanos] at alone
        simp only [bind_eq_ok_iff, natural_eq_ok_iff, ih distinct, alone, Option.none_or,
          Option.or_none, Settles, Option.some.injEq]
        constructor
        · rintro ⟨said, here, known, saysSecs, rfl⟩
          exact ⟨⟨.inr isNanos, known⟩, saysSecs, here⟩
        · rintro ⟨⟨-, known⟩, saysSecs, here⟩
          exact ⟨nanos, here, known, saysSecs, rfl⟩
      · constructor
        · rintro ⟨⟩
        · rintro ⟨⟨known, -⟩, -⟩
          exact absurd known (not_or.mpr ⟨isSecs, isNanos⟩)

theorem ofItems_pair (first second : Value) (more : List Value) :
    ofItems (first :: second :: more) =
      (first.natural .seconds).bind fun secs =>
        (second.natural .nanoseconds).bind fun nanos =>
          (build secs nanos).bind fun duration =>
            if more = [] then .ok duration else .error (.tooLong (more.length + 2)) := by
  cases firstRead : first.natural .seconds with
  | error fault => simp only [ofItems, firstRead, Except.bind]
  | ok secs =>
      cases secondRead : second.natural .nanoseconds with
      | error fault => simp only [ofItems, firstRead, secondRead, Except.bind]
      | ok nanos =>
          simp only [ofItems, firstRead, secondRead, Except.bind]
          cases build secs nanos <;> rfl

theorem ofValue_of_isSpan {value : Value} {span : Span} (typed : value.IsSpan span) :
    Duration.ofValue value = build span.secs span.nanos := by
  cases typed with
  | @object members secs nanos known saysSecs saysNanos =>
      have read : readMembers ⟨none, none⟩ (byName members) = .ok ⟨some secs, some nanos⟩ := by
        rw [readMembers_eq_ok_iff (byName_distinct members), member?_byName, member?_byName]
        exact ⟨(forall_byName_iff fun name => name = "secs" ∨ name = "nanos").mpr known, saysSecs,
          saysNanos⟩
      rw [Duration.ofValue, ofMembers, read]
  | list saysSecs saysNanos =>
      rw [Duration.ofValue, ofItems_pair, natural_eq_ok_iff.mpr saysSecs, Except.bind,
        natural_eq_ok_iff.mpr saysNanos, Except.bind]
      cases build _ _ <;> rfl

theorem isSpan_of_ofMembers {members : List (String × Value)} {duration : Duration}
    (read : ofMembers members = .ok duration) : ∃ span, (Value.object members).IsSpan span := by
  rw [ofMembers] at read
  cases found : readMembers ⟨none, none⟩ (byName members) with
  | error fault =>
      rw [found] at read
      cases read
  | ok parts =>
      rw [found] at read
      match parts with
      | ⟨none, _⟩ => cases read
      | ⟨some _, none⟩ => cases read
      | ⟨some secs, some nanos⟩ =>
          rw [readMembers_eq_ok_iff (byName_distinct members), member?_byName, member?_byName]
            at found
          obtain ⟨known, saysSecs, saysNanos⟩ := found
          exact ⟨_, .object ((forall_byName_iff fun name => name = "secs" ∨ name = "nanos").mp known)
            saysSecs saysNanos⟩

theorem isSpan_of_ofItems {items : List Value} {duration : Duration}
    (read : ofItems items = .ok duration) : ∃ span, (Value.list items).IsSpan span := by
  match items with
  | [] => cases read
  | [first] =>
      cases found : first.natural .seconds <;> simp [ofItems, found] at read
  | first :: second :: more =>
      simp only [ofItems_pair, bind_eq_ok_iff, natural_eq_ok_iff] at read
      obtain ⟨secs, saysSecs, nanos, saysNanos, built, -, whole⟩ := read
      split_ifs at whole with last
      rw [last]
      exact ⟨_, .list saysSecs saysNanos⟩

theorem isSpan_of_ofValue {value : Value} {duration : Duration}
    (read : Duration.ofValue value = .ok duration) : ∃ span, value.IsSpan span := by
  cases value with
  | object members => exact isSpan_of_ofMembers read
  | list items => exact isSpan_of_ofItems read
  | _ => cases read

end Duration

end Reassembly
