import Reassembly.Proofs.Pool.LedgerTurns

/-!
# The lives of a run

The lives in the ledger of a run are matched with the run itself.  Each was opened
by the packet at its place of birth, which found no message to join, and each of
its packets is the one that the run brought at the packet's place
(`Life.Genuine`).  Places of birth are the openings of the run and places of
packets its recordings, each of them once.
-/

set_option autoImplicit false

namespace Reassembly

structure Life.Genuine (pool : Pool) (actions : List Pool.Action) (life : Life) : Prop where
  brought : Pool.packetAt? actions life.birth = some life.opener
  unfiled : Pool.filedUnder? (pool.registryAt actions life.birth) life.opener.src
    life.opener.dst = none
  answer : pool.hooks.opens life.opener = some life.direction
  since : life.since = (pool.registryAt actions life.birth).clock
  first : life.given.head? = some (life.birth, life.opener)
  taken : ∀ entry ∈ life.given,
    Pool.packetAt? actions entry.1 = some entry.2 ∧ entry.2.flags.rst = false
  ordered : life.places.Pairwise (· < ·)

namespace Life.Genuine

variable {pool : Pool} {actions : List Pool.Action} {life : Life}

theorem concat (genuine : life.Genuine pool actions) (action : Pool.Action) :
    life.Genuine pool (actions ++ [action]) := by
  obtain ⟨inside, brought⟩ := Pool.packetAt?_concat genuine.brought action
  have same := pool.registryAt_concat (Nat.le_of_lt inside) action
  refine ⟨brought, ?_, genuine.answer, ?_, genuine.first, ?_, genuine.ordered⟩
  · rw [same]
    exact genuine.unfiled
  · rw [same]
    exact genuine.since
  · intro entry member
    obtain ⟨taken, plain⟩ := genuine.taken entry member
    exact ⟨(Pool.packetAt?_concat taken action).2, plain⟩

theorem places_lt (genuine : life.Genuine pool actions) {place : Nat}
    (member : place ∈ life.places) : place < actions.length := by
  obtain ⟨entry, inside, rfl⟩ := List.mem_map.mp member
  -- any action will do: only the bound is of interest
  exact (Pool.packetAt?_concat (genuine.taken entry inside).1 .settle).1

theorem birth_le (genuine : life.Genuine pool actions) {place : Nat}
    (member : place ∈ life.places) : life.birth ≤ place := by
  have first := genuine.first
  have ordered := genuine.ordered
  unfold places at member ordered
  cases given : life.given with
  | nil =>
      rw [given] at first
      cases first
  | cons entry rest =>
      rw [given, List.map_cons] at member ordered
      rw [given] at first
      cases first
      rcases List.mem_cons.mp member with same | later
      · exact Nat.le_of_eq same.symm
      · exact Nat.le_of_lt (List.rel_of_pairwise_cons ordered later)

theorem add (genuine : life.Genuine pool actions) {action : Pool.Action} {packet : Packet}
    (brings : action.packet? = some packet) (plain : packet.flags.rst = false) :
    (life.add actions.length packet).Genuine pool (actions ++ [action]) := by
  have kept := genuine.concat action
  refine ⟨kept.brought, kept.unfiled, kept.answer, kept.since, ?_, ?_, ?_⟩
  · have first := genuine.first
    simp only [Life.add, List.head?_append, first, Option.some_or]
  · intro entry member
    cases List.mem_append.mp member with
    | inl earlier => exact kept.taken entry earlier
    | inr last =>
        cases List.mem_singleton.mp last
        exact ⟨Pool.packetAt?_last brings actions, plain⟩
  · rw [places_add]
    refine List.pairwise_append.mpr ⟨genuine.ordered, List.pairwise_singleton _ _, ?_⟩
    intro place member last lastMember
    rw [List.mem_singleton.mp lastMember]
    exact genuine.places_lt member

theorem begin {action : Pool.Action} {packet : Packet} {direction : Direction}
    (brings : action.packet? = some packet) (plain : packet.flags.rst = false)
    (unfiled : Pool.filedUnder? (pool.after actions) packet.src packet.dst = none)
    (answer : pool.hooks.opens packet = some direction) :
    (Life.add ⟨actions.length, (pool.after actions).clock, direction, packet, []⟩
      actions.length packet).Genuine pool (actions ++ [action]) := by
  have here : pool.registryAt (actions ++ [action]) actions.length = pool.after actions := by
    simp [Pool.registryAt]
  have brought := Pool.packetAt?_last brings actions
  refine ⟨brought, ?_, answer, ?_, rfl, ?_, List.pairwise_singleton _ _⟩
  · simp only [Life.add, here]
    exact unfiled
  · simp only [Life.add, here]
  · intro entry member
    cases List.mem_singleton.mp member
    exact ⟨brought, plain⟩

theorem key_free (genuine : life.Genuine pool actions) :
    (pool.registryAt actions life.birth).find? life.key = none :=
  Pool.find?_of_unfiled genuine.unfiled life.direction

end Life.Genuine

/-! ## Where a ledger stands in its run -/

namespace Pool

theorem ledger_place (pool : Pool) (actions : List Action) :
    (pool.ledger actions).place = actions.length := by
  induction actions using List.reverseRecOn with
  | nil => rfl
  | append_singleton actions action ih =>
      rw [ledger_concat, List.length_append, ← ih]
      rfl

theorem ledger_clock (pool : Pool) (actions : List Action) :
    (pool.ledger actions).clock = (pool.after actions).clock :=
  congrArg Registry.clock (pool.ledger_registry actions)

theorem ledger_unambiguous (pool : Pool) (actions : List Action) :
    ((pool.ledger actions).registry pool).Unambiguous := by
  rw [ledger_registry]
  exact pool.after_unambiguous actions

theorem ledger_turns {pool : Pool} {actions : List Action} {action : Action}
    (fits : pool.Schedulable (pool.after (actions ++ [action])).clock) :
    ∃ next, Ledger.Turns pool (pool.ledger actions) action next ∧
      pool.ledger (actions ++ [action]) =
        { next with place := (pool.ledger actions).place + 1 } := by
  have before : pool.Schedulable (pool.ledger actions).clock := by
    rw [ledger_clock]
    exact fits.of_concat
  exact ⟨_, Ledger.turns before action, pool.ledger_concat actions action⟩

end Pool

/-! ## Births and places -/

namespace Ledger

variable {pool : Pool} {ledger : Ledger}

theorem lives_joins (unambiguous : (ledger.registry pool).Unambiguous) {life : Life}
    (member : life ∈ ledger.live) (packet : Packet) :
    ∃ others, ledger.lives.Perm (life :: others) ∧
      (ledger.record pool life packet).lives.Perm (life.add ledger.place packet :: others) :=
  ⟨_, lives_of_mem unambiguous member, lives_record pool ledger life packet⟩

theorem lives_opens (direction : Direction) {packet : Packet}
    (unfiled : Pool.filedUnder? (ledger.registry pool) packet.src packet.dst = none) :
    (ledger.record pool (ledger.newborn direction packet) packet).lives.Perm
      ((ledger.newborn direction packet).add ledger.place packet :: ledger.lives) := by
  have free : (ledger.registry pool).find? (ledger.newborn direction packet).key = none :=
    Pool.find?_of_unfiled unfiled direction
  have recorded := lives_record pool ledger (ledger.newborn direction packet) packet
  rw [without_of_free free] at recorded
  exact recorded

end Ledger

namespace Pool

theorem openings_concat_of_none {pool : Pool} {actions : List Action} {action : Action}
    (accounted : Accounted 0 (pool.act (pool.after actions) action).effects) :
    pool.openings (actions ++ [action]) = pool.openings actions := by
  have absent : Effect.count .opened ∉ (pool.act (pool.after actions) action).effects :=
    List.count_eq_zero.mp accounted.opened
  rw [openings, placesWhere_concat, decide_eq_false absent, openings]
  exact List.append_nil _

theorem openings_concat_of_one {pool : Pool} {actions : List Action} {action : Action}
    (accounted : Accounted 1 (pool.act (pool.after actions) action).effects) :
    pool.openings (actions ++ [action]) = pool.openings actions ++ [actions.length] := by
  have present : Effect.count .opened ∈ (pool.act (pool.after actions) action).effects := by
    apply List.count_pos_iff.mp
    rw [accounted.opened]
    exact Nat.one_pos
  rw [openings, placesWhere_concat, decide_eq_true present, openings]
  rfl

theorem recordings_concat (pool : Pool) (actions : List Action) (action : Action) :
    pool.recordings (actions ++ [action]) =
      pool.recordings actions ++
        if action.packet?.any (pool.records (pool.after actions)) then [actions.length] else [] :=
  placesWhere_concat pool _ actions action

/-- Every message that a run opens has one life, born at that place. -/
theorem ledger_births {pool : Pool} {actions : List Action}
    (fits : pool.Schedulable (pool.after actions).clock) :
    ((pool.ledger actions).lives.map Life.birth).Perm (pool.openings actions) := by
  induction actions using List.reverseRecOn with
  | nil => exact List.Perm.refl _
  | append_singleton actions action ih =>
      have before := ih fits.of_concat
      have unambiguous := pool.ledger_unambiguous actions
      have here := pool.ledger_registry actions
      obtain ⟨next, turned, now⟩ := ledger_turns fits
      rw [now]
      cases turned with
      | rests _ idle sheds accounted =>
          rw [openings_concat_of_none (here ▸ accounted)]
          exact (sheds.lives.map Life.birth).trans before
      | joins life packet brings plain member filed accounted =>
          obtain ⟨others, split, recorded⟩ := Ledger.lives_joins unambiguous member packet
          rw [openings_concat_of_none (here ▸ accounted)]
          exact (recorded.map Life.birth).trans ((split.map Life.birth).symm.trans before)
      | opens direction packet brings plain unfiled answer accounted =>
          have recorded := (Ledger.lives_opens direction unfiled).map Life.birth
          rw [openings_concat_of_one (here ▸ accounted), ← pool.ledger_place actions]
          exact recorded.trans ((before.cons _).trans (List.perm_append_singleton _ _).symm)

/-- Every packet of a run that belongs in a message is recorded once, in one life. -/
theorem ledger_places {pool : Pool} {actions : List Action}
    (fits : pool.Schedulable (pool.after actions).clock) :
    ((pool.ledger actions).lives.flatMap Life.places).Perm (pool.recordings actions) := by
  induction actions using List.reverseRecOn with
  | nil => exact List.Perm.refl _
  | append_singleton actions action ih =>
      have before := ih fits.of_concat
      have unambiguous := pool.ledger_unambiguous actions
      have here := pool.ledger_registry actions
      obtain ⟨next, turned, now⟩ := ledger_turns fits
      rw [now, recordings_concat, ← pool.ledger_place actions, ← here]
      cases turned with
      | rests _ idle sheds accounted =>
          rw [if_neg (Bool.eq_false_iff.mp idle), List.append_nil]
          exact (sheds.lives.flatMap_right Life.places).trans before
      | joins life packet brings plain member filed accounted =>
          obtain ⟨others, split, recorded⟩ := Ledger.lives_joins unambiguous member packet
          have belongs : action.packet?.any
              (pool.records ((pool.ledger actions).registry pool)) = true := by
            simp [brings, records, plain, filed]
          rw [if_pos belongs]
          refine (recorded.flatMap_right Life.places).trans ?_
          have longer : (others.flatMap Life.places ++ life.places).Perm (pool.recordings actions) :=
            List.perm_append_comm.trans ((split.flatMap_right Life.places).symm.trans before)
          rw [List.flatMap_cons, Life.places_add]
          refine List.perm_append_comm.trans ?_
          rw [← List.append_assoc]
          exact longer.append_right _
      | opens direction packet brings plain unfiled answer accounted =>
          have recorded :=
            (Ledger.lives_opens direction unfiled).flatMap_right Life.places
          have belongs : action.packet?.any
              (pool.records ((pool.ledger actions).registry pool)) = true := by
            simp [brings, records, plain, answer]
          rw [if_pos belongs]
          exact recorded.trans ((before.cons _).trans (List.perm_append_singleton _ _).symm)

theorem ledger_genuine {pool : Pool} {actions : List Action}
    (fits : pool.Schedulable (pool.after actions).clock) :
    ∀ life ∈ (pool.ledger actions).lives, life.Genuine pool actions := by
  induction actions using List.reverseRecOn with
  | nil =>
      intro life member
      cases member
  | append_singleton actions action ih =>
      have before := ih fits.of_concat
      have unambiguous := pool.ledger_unambiguous actions
      obtain ⟨next, turned, now⟩ := ledger_turns fits
      rw [now]
      intro life member
      cases turned with
      | rests _ idle sheds accounted =>
          exact (before life (sheds.lives.mem_iff.mp member)).concat action
      | joins joined packet brings plain tracked filed accounted =>
          obtain ⟨others, split, recorded⟩ := Ledger.lives_joins unambiguous tracked packet
          cases List.mem_cons.mp (recorded.mem_iff.mp member) with
          | inl longer =>
              have earlier := before joined (split.mem_iff.mpr List.mem_cons_self)
              rw [longer, pool.ledger_place actions]
              exact earlier.add brings plain
          | inr other =>
              exact (before life (split.mem_iff.mpr (List.mem_cons_of_mem _ other))).concat action
      | opens direction packet brings plain unfiled answer accounted =>
          have recorded := Ledger.lives_opens direction unfiled
          cases List.mem_cons.mp (recorded.mem_iff.mp member) with
          | inl first =>
              rw [pool.ledger_registry actions] at unfiled
              rw [first, Ledger.newborn, pool.ledger_place actions, pool.ledger_clock actions]
              exact .begin brings plain unfiled answer
          | inr other => exact (before life other).concat action

end Pool

/-! ## Open and completed lives -/

/-- None of a life's packets completed its message. -/
def Life.Open (pool : Pool) (life : Life) : Prop :=
  pool.StaysOpen (.opened life.direction life.opener) life.packets

theorem Life.Open.add {pool : Pool} {life : Life} {packet : Packet} (stays : life.Open pool)
    (incomplete : pool.complete (life.flow pool).message packet ≠ .ok true) (place : Nat) :
    (life.add place packet).Open pool := by
  unfold Life.Open
  rw [packets_add]
  exact Pool.staysOpen_concat.mpr ⟨stays, incomplete⟩

theorem Life.Open.message_eq {pool : Pool} {life : Life} (stays : life.Open pool) :
    life.message pool.limits.maxSize =
      (Message.opened life.direction life.opener).gather life.packets :=
  stays.foldl_grown

theorem Life.Open.length_lt {pool : Pool} {life : Life} (stays : life.Open pool) :
    (life.message pool.limits.maxSize).length < pool.limits.maxSize := by
  rw [stays.message_eq]
  exact Pool.StaysOpen.length_lt stays pool.maxSize_pos

theorem Life.Open.packets_eq {pool : Pool} {life : Life} (stays : life.Open pool) :
    (life.message pool.limits.maxSize).packets = life.packets := by
  rw [stays.message_eq, Message.gather_eq]
  rfl

/-- A message ends as completed with the packet that completes it, and otherwise without
having been completed. -/
def Ended.Lawful (pool : Pool) (ended : Ended) : Prop :=
  match ended.termination with
  | .completed => ∃ (life : Life) (place : Nat) (packet : Packet),
      ended.life = life.add place packet ∧ life.Open pool ∧
        pool.complete (life.flow pool).message packet = .ok true
  | _ => ended.life.Open pool

structure Ledger.Lawful (pool : Pool) (ledger : Ledger) : Prop where
  live : ∀ life ∈ ledger.live, life.Open pool
  ended : ∀ ended ∈ ledger.ended, ended.Lawful pool

namespace Ledger.Lawful

variable {pool : Pool} {ledger : Ledger}

theorem sheds {next : Ledger} (lawful : ledger.Lawful pool) (sheds : Sheds ledger next) :
    next.Lawful pool where
  live := by
    intro life member
    exact lawful.live life (sheds.live.subset member)
  ended := by
    intro ended member
    obtain ⟨gone, joined, only⟩ := sheds.ended
    rw [joined] at member
    cases List.mem_append.mp member with
    | inl earlier => exact lawful.ended ended earlier
    | inr now =>
        obtain ⟨tracked, early⟩ := only ended now
        have stays := lawful.live ended.life tracked
        obtain ⟨life, termination, time, place⟩ := ended
        cases termination with
        | completed => exact absurd rfl early
        | reset => exact stays
        | timedOut => exact stays

theorem record {life : Life} (lawful : ledger.Lawful pool) (stays : life.Open pool)
    (packet : Packet) : (ledger.record pool life packet).Lawful pool := by
  have others : ∀ other ∈ ledger.without life.key, other.Open pool := by
    intro other member
    exact lawful.live other (List.mem_filter.mp member).1
  by_cases complete : pool.complete (life.flow pool).message packet = .ok true
  · rw [record_of_complete complete]
    refine ⟨others, ?_⟩
    intro ended member
    cases List.mem_append.mp member with
    | inl earlier => exact lawful.ended ended earlier
    | inr now =>
        cases List.mem_singleton.mp now
        exact ⟨life, ledger.place, packet, rfl, stays, complete⟩
  · rw [record_of_incomplete complete]
    refine ⟨?_, lawful.ended⟩
    intro other member
    cases List.mem_append.mp member with
    | inl earlier => exact others other earlier
    | inr now =>
        cases List.mem_singleton.mp now
        exact stays.add complete ledger.place

end Ledger.Lawful

theorem Pool.ledger_lawful {pool : Pool} {actions : List Action}
    (fits : pool.Schedulable (pool.after actions).clock) :
    (pool.ledger actions).Lawful pool := by
  induction actions using List.reverseRecOn with
  | nil =>
      constructor
      · intro life member
        cases member
      · intro ended member
        cases member
  | append_singleton actions action ih =>
      have before := ih fits.of_concat
      obtain ⟨next, turned, now⟩ := ledger_turns fits
      have lawful : next.Lawful pool := by
        cases turned with
        | rests _ idle sheds accounted => exact before.sheds sheds
        | joins life packet brings plain member filed accounted =>
            exact before.record (before.live life member) packet
        | opens direction packet brings plain unfiled answer accounted =>
            have fresh : ((pool.ledger actions).newborn direction packet).Open pool := trivial
            exact before.record fresh packet
      rw [now]
      exact ⟨lawful.live, lawful.ended⟩

end Reassembly
