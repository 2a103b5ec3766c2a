import Reassembly.Proofs.Pool.Growth
import Reassembly.Proofs.Pool.Places

/-!
# What an action does to the lives of a ledger

An action sheds lives and records nothing, or it records its packet in a live
message, or it opens a message with it (`Ledger.turns`).  Ending lives keeps them in
the ledger; recording a packet replaces one life by a longer one.
-/

set_option autoImplicit false

namespace Reassembly.Ledger

/-! ## Shedding -/

/-- A ledger comes from another by ending lives, none of them as completed. -/
structure Sheds (before after : Ledger) : Prop where
  live : after.live.Sublist before.live
  lives : after.lives.Perm before.lives
  ended : ∃ gone, after.ended = before.ended ++ gone ∧
    ∀ ended ∈ gone, ended.life ∈ before.live ∧ ended.termination ≠ .completed

theorem Sheds.refl (ledger : Ledger) : Sheds ledger ledger where
  live := List.Sublist.refl _
  lives := List.Perm.refl _
  ended := by
    refine ⟨[], (List.append_nil _).symm, ?_⟩
    intro ended member
    cases member

theorem Sheds.trans {first second third : Ledger} (before : Sheds first second)
    (after : Sheds second third) : Sheds first third where
  live := after.live.trans before.live
  lives := after.lives.trans before.lives
  ended := by
    obtain ⟨gone, endedBefore, onlyBefore⟩ := before.ended
    obtain ⟨later, endedAfter, onlyAfter⟩ := after.ended
    refine ⟨gone ++ later, ?_, ?_⟩
    · rw [endedAfter, endedBefore, List.append_assoc]
    · intro ended member
      cases List.mem_append.mp member with
      | inl early => exact onlyBefore ended early
      | inr late =>
          obtain ⟨tracked, termination⟩ := onlyAfter ended late
          exact ⟨before.live.subset tracked, termination⟩

theorem finish_sheds (ledger : Ledger) (test : Life → Bool) {termination : Termination}
    (early : termination ≠ .completed) (time : Life → Nat) :
    Sheds ledger (ledger.finish test termination time) where
  live := List.filter_sublist
  lives := by
    have parts : (ledger.live.filter test ++ ledger.live.filter fun life => !test life).Perm
        ledger.live := List.filter_append_perm test ledger.live
    have gone : ((ledger.live.filter test).map fun life =>
        (⟨life, termination, time life, ledger.place⟩ : Ended)).map Ended.life =
        ledger.live.filter test := by simp [Function.comp_def]
    simp only [lives, finish, List.map_append, gone]
    rw [← List.append_assoc]
    refine List.perm_append_comm.trans ?_
    rw [← List.append_assoc]
    exact parts.append_right _
  ended := by
    refine ⟨_, rfl, ?_⟩
    intro ended member
    obtain ⟨life, inside, rfl⟩ := List.mem_map.mp member
    exact ⟨(List.mem_filter.mp inside).1, early⟩

theorem finishSide_sheds (pool : Pool) (ledger : Ledger) (src dst : Endpoint) :
    Sheds ledger (ledger.finishSide pool src dst) := by
  unfold finishSide
  split
  · exact Sheds.refl ledger
  · apply finish_sheds
    intro same
    cases same

theorem expire_sheds (pool : Pool) (ledger : Ledger) (limit : Nat) :
    Sheds ledger (ledger.expire pool limit) := by
  apply finish_sheds
  intro same
  cases same

/-! ## Recording -/

theorem lives_record (pool : Pool) (ledger : Ledger) (life : Life) (packet : Packet) :
    (ledger.record pool life packet).lives.Perm
      (life.add ledger.place packet ::
        (ledger.without life.key ++ ledger.ended.map Ended.life)) := by
  by_cases complete : pool.complete (life.flow pool).message packet = .ok true
  · rw [record_of_complete complete]
    simp only [lives, List.map_append, List.map_cons, List.map_nil]
    rw [← List.append_assoc]
    exact List.perm_append_singleton _ _
  · rw [record_of_incomplete complete]
    simp only [lives, List.append_assoc, List.singleton_append]
    exact List.perm_middle

theorem lives_of_mem {pool : Pool} {ledger : Ledger}
    (unambiguous : (ledger.registry pool).Unambiguous) {life : Life}
    (member : life ∈ ledger.live) :
    ledger.lives.Perm (life :: (ledger.without life.key ++ ledger.ended.map Ended.life)) := by
  have distinct : (ledger.live.map Life.key).Nodup := registry_keys pool ledger ▸ unambiguous
  have single := filter_key distinct member
  have parts := List.filter_append_perm (fun other : Life => decide (other.key = life.key))
    ledger.live
  rw [single] at parts
  have others : (ledger.live.filter fun other => !decide (other.key = life.key)) =
      ledger.without life.key := by simp [without]
  rw [others] at parts
  exact parts.symm.append_right _

theorem without_of_free {pool : Pool} {ledger : Ledger} {key : SessionKey}
    (free : (ledger.registry pool).find? key = none) : ledger.without key = ledger.live := by
  have absent := Registry.find?_eq_none_iff.mp free
  rw [registry_keys] at absent
  apply List.filter_eq_self.mpr
  intro life member
  rw [decide_eq_true_eq]
  intro same
  exact absent (same ▸ List.mem_map_of_mem member)

/-! ## One action -/

/-- What an action does to the ledger, as long as messages get a deadline. -/
inductive Turns (pool : Pool) (ledger : Ledger) (action : Pool.Action) : Ledger → Prop
  | rests (next : Ledger)
      (idle : action.packet?.any (pool.records (ledger.registry pool)) = false)
      (sheds : Sheds ledger next)
      (accounted : Accounted 0 (pool.act (ledger.registry pool) action).effects) :
      Turns pool ledger action next
  | joins (life : Life) (packet : Packet) (brings : action.packet? = some packet)
      (plain : packet.flags.rst = false) (member : life ∈ ledger.live)
      (filed : Pool.filedUnder? (ledger.registry pool) packet.src packet.dst = some life.key)
      (accounted : Accounted 0 (pool.act (ledger.registry pool) action).effects) :
      Turns pool ledger action (ledger.record pool life packet)
  | opens (direction : Direction) (packet : Packet) (brings : action.packet? = some packet)
      (plain : packet.flags.rst = false)
      (unfiled : Pool.filedUnder? (ledger.registry pool) packet.src packet.dst = none)
      (answer : pool.hooks.opens packet = some direction)
      (accounted : Accounted 1 (pool.act (ledger.registry pool) action).effects) :
      Turns pool ledger action (ledger.record pool (ledger.newborn direction packet) packet)

theorem enroll_of_schedulable {pool : Pool} {ledger : Ledger}
    (fits : pool.Schedulable ledger.clock) (direction : Direction) (packet : Packet) :
    ledger.enroll pool direction packet =
      ledger.record pool (ledger.newborn direction packet) packet := by
  obtain ⟨deadline, watched⟩ := Option.isSome_iff_exists.mp fits
  have own : ((ledger.newborn direction packet).flow pool).deadline = some deadline := watched
  simp only [enroll, own]

theorem turns_takePacket {pool : Pool} {ledger : Ledger} (fits : pool.Schedulable ledger.clock)
    {action : Pool.Action} {packet : Packet} (brings : action.packet? = some packet)
    (acts : (pool.act (ledger.registry pool) action).effects =
      (pool.takePacket (ledger.registry pool) packet).effects) :
    Turns pool ledger action (ledger.takePacket pool packet) := by
  have taken := pool.takes (ledger.registry pool) packet
  generalize pool.takePacket (ledger.registry pool) packet = outcome at taken acts
  unfold takePacket
  cases taken with
  | resets rst =>
      rw [if_pos rst]
      refine .rests _ ?_ ?_ ?_
      · simp [brings, Pool.records, rst]
      · exact (finishSide_sheds pool ledger _ _).trans (finishSide_sheds pool _ _ _)
      · exact acts ▸ Accounted.reset pool (ledger.registry pool) packet
  | joins key flow plain filed found =>
      obtain ⟨life, first, member, rfl, rfl⟩ := live_of_find? found
      simp only [plain, Bool.false_eq_true, if_false, filed, first]
      refine .joins life packet brings plain member filed ?_
      exact acts ▸ Accounted.appending pool (ledger.registry pool) life.key _ packet
  | drops plain unfiled closed =>
      simp only [plain, Bool.false_eq_true, if_false, unfiled, closed]
      refine .rests _ ?_ (Sheds.refl ledger) (acts ▸ Accounted.nil)
      simp [brings, Pool.records, unfiled, closed]
  | opens direction plain unfiled answer =>
      simp only [plain, Bool.false_eq_true, if_false, unfiled, answer]
      rw [enroll_of_schedulable fits]
      refine .opens direction packet brings plain unfiled answer ?_
      exact acts ▸ Accounted.opening pool (ledger.registry pool) direction packet

theorem turns {pool : Pool} {ledger : Ledger} (fits : pool.Schedulable ledger.clock)
    (action : Pool.Action) : Turns pool ledger action (ledger.turn pool action) := by
  cases action with
  | take input =>
      cases brings : input.packet? with
      | none =>
          simp only [turn, brings]
          refine .rests _ ?_ (Sheds.refl ledger) ?_
          · simp [Pool.Action.packet?, brings]
          · change Accounted 0 (pool.take (ledger.registry pool) input).effects
            rcases (Pool.take_of_packet?_eq_none brings (ledger.registry pool)).2 with
              quiet | ⟨size, error, quiet⟩
            · rw [quiet]
              exact Accounted.nil
            · rw [quiet]
              exact ⟨rfl, rfl⟩
      | some packet =>
          simp only [turn, brings]
          refine turns_takePacket fits brings ?_
          simp only [Pool.act, Pool.take_of_packet? brings]
  | elapse nanos =>
      refine .rests _ rfl ?_ (Accounted.flatMap (Accounted.timeOut pool))
      have timed := expire_sheds pool ledger (ledger.clock + nanos)
      exact ⟨timed.live, timed.lives, timed.ended⟩
  | settle =>
      refine .rests _ rfl ?_ (Accounted.flatMap (Accounted.timeOut pool))
      exact expire_sheds pool ledger (ledger.clock + 1)

end Reassembly.Ledger
