import Reassembly.Pool.Registry

/-!
# The entries of a registry

Looking a key up and listing the entries agree as long as no key is filed twice,
and filing and erasing keep it so.  What is listed after an operation is what was
listed before under the other keys.
-/

set_option autoImplicit false

namespace Reassembly.Registry

theorem lookup_eq_none_iff {key : SessionKey} {flows : List (SessionKey × Flow)} :
    lookup key flows = none ↔ key ∉ flows.map Prod.fst := by
  induction flows with
  | nil => simp [lookup]
  | cons entry rest ih =>
      obtain ⟨other, flow⟩ := entry
      by_cases same : other = key
      · simp [lookup, same]
      · simp [lookup, same, Ne.symm same, ih]

theorem mem_of_lookup {key : SessionKey} {flow : Flow} {flows : List (SessionKey × Flow)}
    (found : lookup key flows = some flow) : (key, flow) ∈ flows := by
  induction flows with
  | nil => cases found
  | cons entry rest ih =>
      obtain ⟨other, first⟩ := entry
      by_cases same : other = key
      · rw [lookup, if_pos same] at found
        cases found
        simp [same]
      · rw [lookup, if_neg same] at found
        exact List.mem_cons_of_mem _ (ih found)

theorem lookup_of_mem {key : SessionKey} {flow : Flow} {flows : List (SessionKey × Flow)}
    (distinct : (flows.map Prod.fst).Nodup) (member : (key, flow) ∈ flows) :
    lookup key flows = some flow := by
  induction flows with
  | nil => cases member
  | cons entry rest ih =>
      obtain ⟨other, first⟩ := entry
      obtain ⟨fresh, distinct⟩ := List.nodup_cons.mp distinct
      cases List.mem_cons.mp member with
      | inl here =>
          cases here
          simp [lookup]
      | inr later =>
          have differs : other ≠ key := by
            intro same
            exact fresh (List.mem_map.mpr ⟨(key, flow), later, same.symm⟩)
          rw [lookup, if_neg differs]
          exact ih distinct later

theorem find?_eq_none_iff {registry : Registry} {key : SessionKey} :
    registry.find? key = none ↔ key ∉ registry.keys :=
  lookup_eq_none_iff

theorem mem_of_find? {registry : Registry} {key : SessionKey} {flow : Flow}
    (found : registry.find? key = some flow) : (key, flow) ∈ registry.flows :=
  mem_of_lookup found

theorem find?_eq_some_iff {registry : Registry} (unambiguous : registry.Unambiguous)
    {key : SessionKey} {flow : Flow} :
    registry.find? key = some flow ↔ (key, flow) ∈ registry.flows :=
  ⟨mem_of_find?, lookup_of_mem unambiguous⟩

theorem contains_eq_true_iff {registry : Registry} {key : SessionKey} :
    registry.contains key = true ↔ ∃ flow, registry.find? key = some flow :=
  Option.isSome_iff_exists

theorem contains_eq_false_iff {registry : Registry} {key : SessionKey} :
    registry.contains key = false ↔ registry.find? key = none :=
  Option.isSome_eq_false_iff.trans Option.isNone_iff_eq_none

theorem mem_erase {registry : Registry} {key : SessionKey} {entry : SessionKey × Flow} :
    entry ∈ (registry.erase key).flows ↔ entry ∈ registry.flows ∧ entry.1 ≠ key := by
  simp [erase]

theorem mem_insert {registry : Registry} {key : SessionKey} {flow : Flow}
    {entry : SessionKey × Flow} :
    entry ∈ (registry.insert key flow).flows ↔
      (entry ∈ registry.flows ∧ entry.1 ≠ key) ∨ entry = (key, flow) := by
  simp [insert, erase]

theorem erase_unambiguous {registry : Registry} (unambiguous : registry.Unambiguous)
    (key : SessionKey) : (registry.erase key).Unambiguous :=
  unambiguous.sublist (List.filter_sublist.map Prod.fst)

theorem insert_unambiguous {registry : Registry} (unambiguous : registry.Unambiguous)
    (key : SessionKey) (flow : Flow) : (registry.insert key flow).Unambiguous := by
  have cleared := registry.find?_erase_self key
  have absent : key ∉ (registry.erase key).keys := find?_eq_none_iff.mp cleared
  have kept := erase_unambiguous unambiguous key
  simp only [Unambiguous, keys, insert, List.map_append, List.map_cons, List.map_nil] at *
  refine List.nodup_append.mpr ⟨kept, by simp, ?_⟩
  intro other member last lastMember same
  rw [same, List.mem_singleton.mp lastMember] at member
  exact absent member

@[simp] theorem erase_insert (registry : Registry) (key : SessionKey) (flow : Flow) :
    (registry.insert key flow).erase key = registry.erase key := by
  simp [insert, erase, List.filter_filter]

@[simp] theorem insert_insert (registry : Registry) (key : SessionKey) (first second : Flow) :
    (registry.insert key first).insert key second = registry.insert key second := by
  have cleared := registry.erase_insert key first
  have flows := congrArg Registry.flows cleared
  simp only [insert] at flows ⊢
  rw [flows]

theorem find?_erase (registry : Registry) (key other : SessionKey) :
    (registry.erase key).find? other = if other = key then none else registry.find? other := by
  by_cases same : other = key
  · rw [if_pos same, same, find?_erase_self]
  · rw [if_neg same, registry.find?_erase_other same]

theorem find?_insert (registry : Registry) (key other : SessionKey) (flow : Flow) :
    (registry.insert key flow).find? other =
      if other = key then some flow else registry.find? other := by
  by_cases same : other = key
  · rw [if_pos same, same, find?_insert_self]
  · rw [if_neg same, registry.find?_insert_other same]

/-! ## Entries picked out -/

theorem lookup_filter {flows : List (SessionKey × Flow)}
    (distinct : (flows.map Prod.fst).Nodup) (keep : SessionKey × Flow → Bool)
    (key : SessionKey) :
    lookup key (flows.filter keep) = (lookup key flows).filter fun flow => keep (key, flow) := by
  induction flows with
  | nil => rfl
  | cons entry rest ih =>
      obtain ⟨other, flow⟩ := entry
      obtain ⟨fresh, distinct⟩ := List.nodup_cons.mp distinct
      by_cases same : other = key
      · subst same
        have absent : lookup other (rest.filter keep) = none := by
          rw [ih distinct, lookup_eq_none_iff.mpr fresh]
          rfl
        cases kept : keep (other, flow) <;> simp [kept, lookup, absent, Option.filter]
      · cases kept : keep (other, flow) <;> simp [kept, lookup, same, ih distinct]

theorem filter_key {flows : List (SessionKey × Flow)}
    (distinct : (flows.map Prod.fst).Nodup) (key : SessionKey) :
    (flows.filter fun entry => decide (entry.1 = key)) =
      (lookup key flows).toList.map fun flow => (key, flow) := by
  induction flows with
  | nil => rfl
  | cons entry rest ih =>
      obtain ⟨other, flow⟩ := entry
      obtain ⟨fresh, distinct⟩ := List.nodup_cons.mp distinct
      by_cases same : other = key
      · subst same
        simp [lookup, ih distinct, lookup_eq_none_iff.mpr fresh]
      · simp [lookup, same, ih distinct]

end Reassembly.Registry
