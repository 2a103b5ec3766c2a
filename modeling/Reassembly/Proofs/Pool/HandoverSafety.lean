import Mathlib.Data.List.Nodup
import Reassembly.Pool.Handover
import Reassembly.Proofs.Pool.IntakeCases

/-!
# Messages are handed over safely

In every state that the producer and the watchers can reach, in whatever order they take their
steps, the message of every watcher is in one place: filed under its key, on its way through its
channel, or claimed (`Handover.Stands`).  What holds the places apart is who holds the registry.
A parcel is in a channel only while its sender keeps the registry, so a watcher that is given
the registry has nothing in its channel and its own message under its key, and a key is not used
again before the watcher of its last message has claimed it.
-/

set_option autoImplicit false

namespace Reassembly

/-! ## Lists that grow or change in one place -/

theorem getElem?_concat_cases {α : Type} {items : List α} {item found : α} {place : Nat}
    (there : (items ++ [item])[place]? = some found) :
    items[place]? = some found ∨ (place = items.length ∧ found = item) := by
  rcases Nat.lt_trichotomy place items.length with before | last | beyond
  · rw [List.getElem?_append_left before] at there
    exact Or.inl there
  · subst last
    rw [List.getElem?_concat_length] at there
    exact Or.inr ⟨rfl, (Option.some.inj there).symm⟩
  · have past : (items ++ [item]).length ≤ place := by
      simp only [List.length_append, List.length_singleton]
      omega
    rw [List.getElem?_eq_none past] at there
    cases there

theorem getElem?_concat_of_some {α : Type} {items : List α} {found : α} {place : Nat}
    (there : items[place]? = some found) (item : α) : (items ++ [item])[place]? = some found := by
  rw [List.getElem?_append_left (List.getElem?_eq_some_iff.mp there).1]
  exact there

theorem getElem?_modify_cases {α : Type} {items : List α} {change : α → α} {place other : Nat}
    {found : α} (there : (items.modify place change)[other]? = some found) :
    (other = place ∧ ∃ before, items[place]? = some before ∧ found = change before) ∨
      (other ≠ place ∧ items[other]? = some found) := by
  by_cases same : other = place
  · subst same
    rw [List.getElem?_modify_eq] at there
    obtain ⟨before, here, changed⟩ := Option.map_eq_some_iff.mp there
    exact Or.inl ⟨rfl, before, here, changed.symm⟩
  · rw [List.getElem?_modify_ne _ _ (Ne.symm same)] at there
    exact Or.inr ⟨same, there⟩

namespace Watcher

theorem not_listens_of_claimed {watcher : Watcher} (owns : watcher.phase = .claimed) :
    ¬watcher.Listens := by
  simp [Listens, owns]

theorem not_listens_of_ended {watcher : Watcher} (gone : watcher.phase = .ended) :
    ¬watcher.Listens := by
  simp [Listens, gone]

theorem claim_shut (watcher : Watcher) : watcher.shut.claim = watcher.claim := by
  unfold shut
  split <;> rfl

end Watcher

namespace Handover

/-! ## Where messages are -/

/-- Where the message of a watcher is. -/
inductive Stands (state : Handover) (number : Nat) (watcher : Watcher) : Prop
  | filed (flow : Flow) (listens : watcher.Listens) (quiet : watcher.channel = .empty)
      (found : state.registry.find? watcher.key = some flow)
      (own : state.filed watcher.key = number) (deadline : flow.deadline = some watcher.deadline)
      (unclaimed : number ∉ state.claims.map Claim.origin) : Stands state number watcher
  | sent (parcel : Parcel) (listens : watcher.Listens) (came : watcher.channel = .holds parcel)
      (own : parcel.origin = number) (awaited : state.holder = .awaiting number)
      (unclaimed : number ∉ state.claims.map Claim.origin) : Stands state number watcher
  | claimed (deaf : ¬watcher.Listens) (member : number ∈ state.claims.map Claim.origin) :
      Stands state number watcher

/-- What holds of every state that can be reached. -/
structure Sound (state : Handover) : Prop where
  stands : ∀ number watcher, state.watchers[number]? = some watcher → state.Stands number watcher
  /-- Who finds a message in the registry finds its watcher listening. -/
  heard : ∀ key flow, state.registry.find? key = some flow →
    ∃ watcher, state.watchers[state.filed key]? = some watcher ∧ watcher.key = key ∧
      watcher.Listens ∧ watcher.channel = .empty
  own : ∀ claim ∈ state.claims, claim.watcher = claim.origin ∧
    ∃ watcher, state.watchers[claim.origin]? = some watcher ∧ watcher.key = claim.key
  once : (state.claims.map Claim.origin).Nodup
  awaited : ∀ number, state.holder = .awaiting number → ∃ watcher parcel,
    state.watchers[number]? = some watcher ∧ watcher.Listens ∧ watcher.channel = .holds parcel
  granted : ∀ number, state.holder = .watcher number → ∃ watcher,
    state.watchers[number]? = some watcher ∧ watcher.phase = .queueing

variable {state next : Handover} {number : Nat} {watcher : Watcher}

theorem Stands.keep (stands : state.Stands number watcher)
    (filed : ∀ flow, state.registry.find? watcher.key = some flow →
      state.filed watcher.key = number → next.filed watcher.key = number ∧
        ∃ later, next.registry.find? watcher.key = some later ∧ later.deadline = flow.deadline)
    (awaited : state.holder = .awaiting number → next.holder = .awaiting number)
    (claims : number ∈ next.claims.map Claim.origin ↔ number ∈ state.claims.map Claim.origin) :
    next.Stands number watcher := by
  cases stands with
  | filed flow listens quiet found own deadline unclaimed =>
      obtain ⟨still, later, here, same⟩ := filed flow found own
      exact .filed later listens quiet here still (same.trans deadline) (mt claims.mp unclaimed)
  | sent parcel listens came own waits unclaimed =>
      exact .sent parcel listens came own (awaited waits) (mt claims.mp unclaimed)
  | claimed deaf member => exact .claimed deaf (claims.mpr member)

/-- Steps that leave registry and claims alone move no message. -/
theorem Stands.untouched (stands : state.Stands number watcher)
    (tracked : next.registry.find? watcher.key = state.registry.find? watcher.key)
    (filed : next.filed = state.filed) (claims : next.claims = state.claims)
    (awaited : state.holder = .awaiting number → next.holder = .awaiting number) :
    next.Stands number watcher := by
  apply stands.keep
  · intro flow found own
    rw [filed, tracked]
    exact ⟨own, flow, found, rfl⟩
  · exact awaited
  · rw [claims]

namespace Sound

theorem start : Sound start where
  stands := by
    intro number watcher there
    cases there
  heard := by
    intro key flow found
    cases found
  own := by
    intro claim member
    cases member
  once := List.nodup_nil
  awaited := by
    intro number awaiting
    cases awaiting
  granted := by
    intro number holds
    cases holds

/-- The registry may change hands between those who wait for no acknowledgement. -/
theorem withHolder (sound : state.Sound) {holder : Holder}
    (before : ∀ number, state.holder ≠ .awaiting number)
    (after : ∀ number, holder ≠ .awaiting number)
    (granted : ∀ number, holder = .watcher number → ∃ watcher,
      state.watchers[number]? = some watcher ∧ watcher.phase = .queueing) :
    Sound { state with holder := holder } where
  stands number watcher there :=
    (sound.stands number watcher there).untouched rfl rfl rfl fun awaiting =>
      absurd awaiting (before number)
  heard := sound.heard
  own := sound.own
  once := sound.once
  awaited number awaiting := absurd awaiting (after number)
  granted := granted

theorem passes (sound : state.Sound) (nanos : Nat) :
    Sound { state with
      registry := { state.registry with clock := state.registry.clock + nanos } } where
  stands number watcher there := (sound.stands number watcher there).untouched rfl rfl rfl id
  heard := sound.heard
  own := sound.own
  once := sound.once
  awaited := sound.awaited
  granted := sound.granted

theorem origin_lt (sound : state.Sound) {origin : Nat}
    (member : origin ∈ state.claims.map Claim.origin) : origin < state.watchers.length := by
  obtain ⟨claim, inside, rfl⟩ := List.mem_map.mp member
  obtain ⟨-, watcher, there, -⟩ := sound.own claim inside
  exact (List.getElem?_eq_some_iff.mp there).1

theorem opens (sound : state.Sound) (holds : state.holder = .producer) {key : SessionKey}
    (free : state.registry.find? key = none) (message : Message) (deadline : Nat) :
    Sound { state with
      registry := state.registry.insert key ⟨message, some deadline⟩
      filed := fun other => if other = key then state.watchers.length else state.filed other
      watchers := state.watchers ++ [⟨key, deadline, .waiting, .empty⟩] } where
  stands number watcher there := by
    rcases getElem?_concat_cases there with old | ⟨rfl, rfl⟩
    · apply (sound.stands number watcher old).keep
      · intro flow found own
        have other : watcher.key ≠ key := by
          intro same
          rw [same, free] at found
          cases found
        exact ⟨(if_neg other).trans own, flow,
          (state.registry.find?_insert_other other _).trans found, rfl⟩
      · exact id
      · exact Iff.rfl
    · have unclaimed : state.watchers.length ∉ state.claims.map Claim.origin := by
        intro member
        exact Nat.lt_irrefl _ (sound.origin_lt member)
      exact .filed ⟨message, some deadline⟩ (Or.inl rfl) rfl (state.registry.find?_insert_self _ _)
        (if_pos rfl) rfl unclaimed
  heard other flow found := by
    by_cases same : other = key
    · subst same
      refine ⟨⟨other, deadline, .waiting, .empty⟩, ?_, rfl, Or.inl rfl, rfl⟩
      simp only [if_true, List.getElem?_concat_length]
    · rw [state.registry.find?_insert_other same] at found
      obtain ⟨watcher, there, rest⟩ := sound.heard other flow found
      refine ⟨watcher, ?_, rest⟩
      simp only [if_neg same]
      exact getElem?_concat_of_some there _
  own claim member := by
    obtain ⟨own, watcher, there, key⟩ := sound.own claim member
    exact ⟨own, watcher, getElem?_concat_of_some there _, key⟩
  once := sound.once
  awaited number awaiting := by
    rw [holds] at awaiting
    cases awaiting
  granted number granted := by
    rw [holds] at granted
    cases granted

theorem grows (sound : state.Sound) {key : SessionKey} {flow : Flow}
    (found : state.registry.find? key = some flow) (message : Message) :
    Sound { state with
      registry := state.registry.insert key { flow with message := message } } where
  stands number watcher there := by
    apply (sound.stands number watcher there).keep
    · intro earlier here own
      by_cases same : watcher.key = key
      · rw [same, found] at here
        cases here
        refine ⟨own, { flow with message := message }, ?_, rfl⟩
        rw [same]
        exact state.registry.find?_insert_self _ _
      · exact ⟨own, earlier, (state.registry.find?_insert_other same _).trans here, rfl⟩
    · exact id
    · exact Iff.rfl
  heard other later here := by
    by_cases same : other = key
    · rw [same]
      exact sound.heard key flow found
    · rw [state.registry.find?_insert_other same] at here
      exact sound.heard other later here
  own := sound.own
  once := sound.once
  awaited := sound.awaited
  granted := sound.granted

/-! ### Parcels and claims -/

theorem unclaimed (sound : state.Sound) (there : state.watchers[number]? = some watcher)
    (listens : watcher.Listens) : number ∉ state.claims.map Claim.origin := by
  cases sound.stands number watcher there with
  | filed flow _ quiet found own deadline unclaimed => exact unclaimed
  | sent parcel _ came own awaited unclaimed => exact unclaimed
  | claimed deaf member => exact absurd listens deaf

theorem own_modify (sound : state.Sound) (change : Watcher → Watcher) (number : Nat)
    (keeps : ∀ watcher, (change watcher).key = watcher.key) :
    ∀ claim ∈ state.claims, claim.watcher = claim.origin ∧ ∃ watcher,
      (state.watchers.modify number change)[claim.origin]? = some watcher ∧
        watcher.key = claim.key := by
  intro claim member
  obtain ⟨own, watcher, there, key⟩ := sound.own claim member
  refine ⟨own, ?_⟩
  by_cases same : number = claim.origin
  · refine ⟨change watcher, ?_, (keeps watcher).trans key⟩
    rw [same, List.getElem?_modify_eq, there]
    rfl
  · exact ⟨watcher, by rw [List.getElem?_modify_ne _ _ same, there], key⟩

theorem sends (sound : state.Sound) (holds : state.holder = .producer) {key : SessionKey}
    {flow : Flow} (found : state.registry.find? key = some flow) (termination : Termination) :
    Sound { state with
      registry := state.registry.erase key
      watchers := state.watchers.modify (state.filed key)
        (Watcher.receive · ⟨state.filed key, flow.message, termination⟩)
      holder := .awaiting (state.filed key) } := by
  obtain ⟨receiver, there, named, listens, quiet⟩ := sound.heard key flow found
  constructor
  case stands =>
      intro number watcher here
      rcases getElem?_modify_cases here with ⟨rfl, before, old, rfl⟩ | ⟨other, old⟩
      · rw [there] at old
        cases old
        exact .sent _ listens rfl rfl rfl (sound.unclaimed there listens)
      · apply (sound.stands number watcher old).keep
        · intro earlier tracked own
          have differs : watcher.key ≠ key := by
            intro same
            exact other (own.symm.trans (congrArg state.filed same))
          exact ⟨own, earlier, (state.registry.find?_erase_other differs).trans tracked, rfl⟩
        · intro awaiting
          rw [holds] at awaiting
          cases awaiting
        · exact Iff.rfl
  case heard =>
      intro other later here
      have differs : other ≠ key := by
        rintro rfl
        rw [state.registry.find?_erase_self] at here
        cases here
      rw [state.registry.find?_erase_other differs] at here
      obtain ⟨watcher, stays, own, rest⟩ := sound.heard other later here
      have apart : state.filed key ≠ state.filed other := by
        intro same
        rw [← same, there] at stays
        cases stays
        exact differs (own.symm.trans named)
      refine ⟨watcher, ?_, own, rest⟩
      rw [List.getElem?_modify_ne _ _ apart]
      exact stays
  case own => exact sound.own_modify (Watcher.receive · _) (state.filed key) fun _ => rfl
  case once => exact sound.once
  case awaited =>
      intro number awaiting
      cases awaiting
      refine ⟨receiver.receive ⟨state.filed key, flow.message, termination⟩, _, ?_, listens, rfl⟩
      rw [List.getElem?_modify_eq, there]
      rfl
  case granted =>
      intro number granted
      cases granted

theorem expires (sound : state.Sound) (there : state.watchers[number]? = some watcher)
    (quiet : watcher.channel = .empty) (listens : watcher.Listens) :
    Sound { state with watchers := state.watchers.modify number Watcher.queue } := by
  constructor
  case stands =>
      intro other later here
      rcases getElem?_modify_cases here with ⟨rfl, before, old, rfl⟩ | ⟨-, old⟩
      · rw [there] at old
        cases old
        cases sound.stands other watcher there with
        | filed flow _ _ found own deadline unclaimed =>
            exact .filed flow (Or.inr rfl) quiet found own deadline unclaimed
        | sent parcel _ came own awaited unclaimed =>
            rw [quiet] at came
            cases came
        | claimed deaf member => exact absurd listens deaf
      · exact (sound.stands other later old).untouched rfl rfl rfl id
  case heard =>
      intro key flow found
      obtain ⟨later, here, named, hears, empty⟩ := sound.heard key flow found
      by_cases same : number = state.filed key
      · refine ⟨later.queue, ?_, named, Or.inr rfl, empty⟩
        rw [same, List.getElem?_modify_eq, here]
        rfl
      · exact ⟨later, by rw [List.getElem?_modify_ne _ _ same, here], named, hears, empty⟩
  case own => exact sound.own_modify Watcher.queue number fun _ => rfl
  case once => exact sound.once
  case awaited =>
      intro other awaiting
      obtain ⟨later, parcel, here, hears, came⟩ := sound.awaited other awaiting
      have apart : number ≠ other := by
        rintro rfl
        rw [there] at here
        cases here
        rw [quiet] at came
        cases came
      exact ⟨later, parcel, by rw [List.getElem?_modify_ne _ _ apart, here], hears, came⟩
  case granted =>
      intro other holds
      obtain ⟨later, here, queues⟩ := sound.granted other holds
      by_cases same : number = other
      · refine ⟨later.queue, ?_, rfl⟩
        rw [same, List.getElem?_modify_eq, here]
        rfl
      · exact ⟨later, by rw [List.getElem?_modify_ne _ _ same, here], queues⟩

/-- A watcher that claims its own message leaves the other messages where they are. -/
theorem claim (sound : state.Sound) (there : state.watchers[number]? = some watcher)
    (listens : watcher.Listens) {registry : Registry} {holder : Holder} (message : Message)
    (termination : Termination)
    (kept : ∀ key flow, state.registry.find? key = some flow → state.filed key ≠ number →
      registry.find? key = some flow)
    (left : ∀ key flow, registry.find? key = some flow →
      state.registry.find? key = some flow ∧ state.filed key ≠ number)
    (alone : ∀ other, state.holder = .awaiting other → other = number)
    (awaited : ∀ other, holder ≠ .awaiting other) (granted : ∀ other, holder ≠ .watcher other) :
    Sound { state with
      registry := registry
      watchers := state.watchers.modify number Watcher.claim
      holder := holder
      claims := state.claims ++ [⟨number, number, watcher.key, message, termination⟩] } := by
  have origins : (state.claims ++
      [(⟨number, number, watcher.key, message, termination⟩ : Claim)]).map Claim.origin =
        state.claims.map Claim.origin ++ [number] := by
    simp
  constructor
  case stands =>
      intro other later here
      rcases getElem?_modify_cases here with ⟨rfl, before, -, rfl⟩ | ⟨apart, old⟩
      · refine .claimed (Watcher.not_listens_of_claimed rfl) ?_
        rw [origins]
        exact List.mem_append_right _ List.mem_cons_self
      · apply (sound.stands other later old).keep
        · intro flow found own
          exact ⟨own, flow, kept _ flow found (own ▸ apart), rfl⟩
        · intro awaiting
          exact absurd (alone other awaiting) apart
        · rw [origins]
          simp [apart]
  case heard =>
      intro key flow found
      obtain ⟨tracked, apart⟩ := left key flow found
      obtain ⟨later, here, rest⟩ := sound.heard key flow tracked
      exact ⟨later, by rw [List.getElem?_modify_ne _ _ (Ne.symm apart), here], rest⟩
  case own =>
      intro claim member
      rcases List.mem_append.mp member with old | new
      · exact sound.own_modify Watcher.claim number (fun _ => rfl) claim old
      · rw [List.mem_singleton.mp new]
        refine ⟨rfl, watcher.claim, ?_, rfl⟩
        rw [List.getElem?_modify_eq, there]
        rfl
  case once =>
      rw [origins]
      have unclaimed := sound.unclaimed there listens
      have distinct := sound.once
      rw [List.nodup_append]
      refine ⟨distinct, List.nodup_singleton _, ?_⟩
      intro origin member last lastMember same
      rw [same, List.mem_singleton.mp lastMember] at member
      exact unclaimed member
  case awaited =>
      intro other awaiting
      exact absurd awaiting (awaited other)
  case granted =>
      intro other holds
      exact absurd holds (granted other)

theorem finishes (sound : state.Sound) (there : state.watchers[number]? = some watcher)
    (owns : watcher.phase = .claimed) :
    Sound { state with watchers := state.watchers.modify number Watcher.finish } := by
  have silent := Watcher.not_listens_of_claimed owns
  -- nobody relies on a watcher that does not listen
  have apart : ∀ {other later}, state.watchers[other]? = some later → later.Listens →
      number ≠ other := by
    rintro other later here listens rfl
    rw [there] at here
    cases here
    exact silent listens
  constructor
  case stands =>
      intro other later here
      rcases getElem?_modify_cases here with ⟨rfl, before, old, rfl⟩ | ⟨-, old⟩
      · rw [there] at old
        cases old
        cases sound.stands other watcher there with
        | filed flow listens _ found own deadline unclaimed => exact absurd listens silent
        | sent parcel listens came own awaited unclaimed => exact absurd listens silent
        | claimed deaf member => exact .claimed (Watcher.not_listens_of_ended rfl) member
      · exact (sound.stands other later old).untouched rfl rfl rfl id
  case heard =>
      intro key flow found
      obtain ⟨later, here, named, listens, empty⟩ := sound.heard key flow found
      refine ⟨later, ?_, named, listens, empty⟩
      rw [List.getElem?_modify_ne _ _ (apart here listens)]
      exact here
  case own => exact sound.own_modify Watcher.finish number fun _ => rfl
  case once => exact sound.once
  case awaited =>
      intro other awaiting
      obtain ⟨later, parcel, here, listens, came⟩ := sound.awaited other awaiting
      refine ⟨later, parcel, ?_, listens, came⟩
      rw [List.getElem?_modify_ne _ _ (apart here listens)]
      exact here
  case granted =>
      intro other holds
      obtain ⟨later, here, queues⟩ := sound.granted other holds
      refine ⟨later, ?_, queues⟩
      rw [List.getElem?_modify_ne _ _ (apart here (Or.inr queues))]
      exact here

/-! ### Every step -/

theorem parcel_own (sound : state.Sound) (there : state.watchers[number]? = some watcher)
    (listens : watcher.Listens) {parcel : Parcel} (came : watcher.channel = .holds parcel) :
    parcel.origin = number ∧ state.holder = .awaiting number := by
  cases sound.stands number watcher there with
  | filed flow _ quiet found own deadline unclaimed =>
      rw [quiet] at came
      cases came
  | sent other _ holds own awaited unclaimed =>
      rw [holds] at came
      cases came
      exact ⟨own, awaited⟩
  | claimed deaf member => exact absurd listens deaf

theorem granted_own (sound : state.Sound) (there : state.watchers[number]? = some watcher)
    (holds : state.holder = .watcher number) :
    watcher.phase = .queueing ∧ state.filed watcher.key = number ∧
      ∃ flow, state.registry.find? watcher.key = some flow := by
  obtain ⟨other, here, queues⟩ := sound.granted number holds
  rw [there] at here
  cases here
  refine ⟨queues, ?_⟩
  cases sound.stands number watcher there with
  | filed flow listens quiet found own deadline unclaimed => exact ⟨own, flow, found⟩
  | sent parcel listens came own awaited unclaimed =>
      rw [holds] at awaited
      cases awaited
  | claimed deaf member => exact absurd (Or.inr queues) deaf

theorem tracked_deadline (sound : state.Sound) {key : SessionKey} {flow : Flow}
    (found : state.registry.find? key = some flow)
    (there : state.watchers[state.filed key]? = some watcher) :
    flow.deadline = some watcher.deadline := by
  obtain ⟨other, here, rfl, listens, quiet⟩ := sound.heard key flow found
  rw [there] at here
  cases here
  cases sound.stands _ watcher there with
  | filed tracked _ _ same own deadline unclaimed =>
      rw [found] at same
      cases same
      exact deadline
  | sent parcel _ came own awaited unclaimed =>
      rw [quiet] at came
      cases came
  | claimed deaf member => exact absurd listens deaf

theorem claims (sound : state.Sound) (there : state.watchers[number]? = some watcher)
    (listens : watcher.Listens) {parcel : Parcel} (came : watcher.channel = .holds parcel) :
    Sound { state with
      watchers := state.watchers.modify number Watcher.claim
      holder := state.holder.acknowledge number
      claims := state.claims ++
        [⟨number, parcel.origin, watcher.key, parcel.message, parcel.termination⟩] } := by
  obtain ⟨own, awaited⟩ := sound.parcel_own there listens came
  have acknowledged : state.holder.acknowledge number = .acknowledged number := by
    rw [awaited]
    exact if_pos rfl
  rw [own, acknowledged]
  apply sound.claim there listens
  case kept =>
      intro key flow found apart
      exact found
  case left =>
      intro key flow found
      refine ⟨found, ?_⟩
      -- the watcher of a tracked message has nothing in its channel
      intro same
      obtain ⟨later, here, named, hears, quiet⟩ := sound.heard key flow found
      rw [same, there] at here
      cases here
      rw [quiet] at came
      cases came
  case alone =>
      intro other awaiting
      rw [awaited] at awaiting
      cases awaiting
      rfl
  case awaited =>
      intro other awaiting
      cases awaiting
  case granted =>
      intro other holds
      cases holds

theorem removes (sound : state.Sound) (there : state.watchers[number]? = some watcher)
    (holds : state.holder = .watcher number) (message : Message) :
    Sound { state with
      registry := state.registry.erase watcher.key
      watchers := (state.watchers.modify (state.filed watcher.key) Watcher.shut).modify number
        Watcher.claim
      holder := .nobody
      claims := state.claims ++
        [⟨number, state.filed watcher.key, watcher.key, message, .timedOut⟩] } := by
  obtain ⟨queues, own, -⟩ := sound.granted_own there holds
  have once : Watcher.claim ∘ Watcher.shut = Watcher.claim := funext Watcher.claim_shut
  rw [own, List.modify_modify_eq, once]
  apply sound.claim there (Or.inr queues)
  case kept =>
      intro key flow found apart
      have differs : key ≠ watcher.key := by
        rintro rfl
        exact apart own
      exact (state.registry.find?_erase_other differs).trans found
  case left =>
      intro key flow found
      have differs : key ≠ watcher.key := by
        rintro rfl
        rw [state.registry.find?_erase_self] at found
        cases found
      rw [state.registry.find?_erase_other differs] at found
      refine ⟨found, ?_⟩
      intro same
      obtain ⟨later, here, named, -⟩ := sound.heard key flow found
      rw [same, there] at here
      cases here
      exact differs named.symm
  case alone =>
      intro other awaiting
      rw [holds] at awaiting
      cases awaiting
  case awaited =>
      intro other awaiting
      cases awaiting
  case granted =>
      intro other holds
      cases holds

end Sound

theorem Step.sound {pool : Pool} (step : Step pool state next) (sound : state.Sound) :
    next.Sound := by
  cases step with
  | passes nanos => exact sound.passes nanos
  | acquires free => exact sound.withHolder (by simp [free]) (by simp) (by simp)
  | opens direction packet deadline holds unfiled named =>
      have free := Pool.find?_of_unfiled unfiled direction
      exact sound.opens holds free _ deadline
  | grows key flow packet holds found => exact sound.grows found _
  | sends key flow watcher termination holds found there alive =>
      exact sound.sends holds found termination
  | loses key flow watcher holds found there gone =>
      obtain ⟨other, here, -, listens, -⟩ := sound.heard key flow found
      rw [there] at here
      cases here
      exact absurd listens (Watcher.not_listens_of_ended gone)
  | resumes number acknowledged =>
      exact sound.withHolder (by simp [acknowledged]) (by simp) (by simp)
  | abandons number watcher awaiting there gone =>
      obtain ⟨other, parcel, here, listens, -⟩ := sound.awaited number awaiting
      rw [there] at here
      cases here
      exact absurd listens (Watcher.not_listens_of_ended gone)
  | releases holds => exact sound.withHolder (by simp [holds]) (by simp) (by simp)
  | expires number watcher there waits quiet due => exact sound.expires there quiet (Or.inl waits)
  | grants number watcher free there queues =>
      refine sound.withHolder (by simp [free]) (by simp) ?_
      intro other holds
      cases holds
      exact ⟨watcher, there, queues⟩
  | claims number watcher parcel there listens came => exact sound.claims there listens came
  | misses number watcher there listens closed =>
      cases sound.stands number watcher there with
      | filed flow _ quiet found own deadline unclaimed =>
          rw [quiet] at closed
          cases closed
      | sent parcel _ came own awaited unclaimed =>
          rw [came] at closed
          cases closed
      | claimed deaf member => exact absurd listens deaf
  | removes number watcher flow holds there quiet found =>
      exact sound.removes there holds flow.message.markTimedOut
  | vanishes number watcher holds there quiet absent =>
      obtain ⟨flow, found⟩ := (sound.granted_own there holds).2.2
      rw [absent] at found
      cases found
  | finishes number watcher there owns => exact sound.finishes there owns

theorem Reachable.sound {pool : Pool} (reached : Reachable pool state) : state.Sound := by
  induction reached with
  | start => exact Sound.start
  | step reached step ih => exact step.sound ih

/-! ## What the parties can rely on -/

/-- Nobody loses a message, takes another's, or waits in vain. -/
structure Safe (pool : Pool) (state : Handover) : Prop where
  /-- Every message that was opened is in one place. -/
  placed : ∀ number watcher, state.watchers[number]? = some watcher → state.Stands number watcher
  /-- A message is claimed once, by the watcher that it was given. -/
  claimed : ∀ claim ∈ state.claims, claim.watcher = claim.origin ∧
    (state.claims.map Claim.origin).count claim.origin = 1 ∧
    ∃ watcher, state.watchers[claim.origin]? = some watcher ∧ watcher.key = claim.key
  /-- A watcher that has got the registry finds its own message under its key. -/
  expired : ∀ number, state.holder = .watcher number → ∃ watcher flow,
    state.watchers[number]? = some watcher ∧ watcher.phase = .queueing ∧
      watcher.channel = .empty ∧ state.registry.find? watcher.key = some flow ∧
      state.filed watcher.key = number
  /-- The watcher of a message that can be handed over has not ended. -/
  present : ∀ key flow, state.registry.find? key = some flow → ∃ watcher,
    state.watchers[state.filed key]? = some watcher ∧ watcher.key = key ∧
      watcher.phase ≠ .ended ∧ watcher.Listens
  /-- A producer that waits for an acknowledgement can be given it. -/
  answered : ∀ number, state.holder = .awaiting number → ∃ watcher next,
    state.watchers[number]? = some watcher ∧ watcher.Listens ∧ Step pool state next ∧
      next.holder = .acknowledged number

theorem Reachable.safe {pool : Pool} (reached : Reachable pool state) : state.Safe pool := by
  have sound := reached.sound
  constructor
  case placed => exact sound.stands
  case claimed =>
      intro claim member
      obtain ⟨own, given⟩ := sound.own claim member
      exact ⟨own, List.count_eq_one_of_mem sound.once (List.mem_map_of_mem member), given⟩
  case expired =>
      intro number holds
      obtain ⟨watcher, there, queues⟩ := sound.granted number holds
      obtain ⟨-, own, flow, found⟩ := sound.granted_own there holds
      obtain ⟨other, here, -, -, quiet⟩ := sound.heard watcher.key flow found
      rw [own, there] at here
      cases here
      exact ⟨watcher, flow, there, queues, quiet, found, own⟩
  case present =>
      intro key flow found
      obtain ⟨watcher, there, named, listens, -⟩ := sound.heard key flow found
      have alive : watcher.phase ≠ .ended := fun gone =>
        Watcher.not_listens_of_ended gone listens
      exact ⟨watcher, there, named, alive, listens⟩
  case answered =>
      intro number awaiting
      obtain ⟨watcher, parcel, there, listens, came⟩ := sound.awaited number awaiting
      refine ⟨watcher, _, there, listens, .claims state number watcher parcel there listens came, ?_⟩
      rw [awaiting]
      exact if_pos rfl

end Handover

end Reassembly
