import Reassembly.Proofs.Pool.Ledger

/-!
# The deliveries of a run

The messages that a run delivers are the ended ones of its ledger, in order
(`ledger_deliveries`): all of them, as long as a message that is opened gets a
deadline.  Without a deadline there is no watcher to pass a message on.
-/

set_option autoImplicit false

namespace Reassembly

def deliveries (effects : List Effect) : List Delivery :=
  effects.filterMap Effect.delivery?

theorem deliveries_append (first second : List Effect) :
    deliveries (first ++ second) = deliveries first ++ deliveries second :=
  List.filterMap_append

/-! ## What the parts of a step deliver -/

namespace Pool

theorem deliveries_dispatch (pool : Pool) (key : SessionKey) (message : Message)
    (termination : Termination) (time : Nat) :
    deliveries (pool.dispatch key message termination time) =
      [⟨key, message, termination, time⟩] := by
  unfold dispatch deliveries
  cases pool.handler message <;> rfl

theorem deliveries_retire (pool : Pool) (key : SessionKey) (flow : Flow)
    (termination : Termination) (time : Nat) :
    deliveries (pool.retire key flow termination time) =
      (flow.deadline.map fun _ => ⟨key, flow.message, termination, time⟩).toList := by
  unfold retire
  cases flow.deadline with
  | none => rfl
  | some deadline => exact pool.deliveries_dispatch key flow.message termination time

theorem deliveries_cutEffects (maxSize : Nat) (key : SessionKey) (message : Message)
    (packet : Packet) : deliveries (cutEffects maxSize key message packet) = [] := by
  unfold cutEffects
  split <;> rfl

theorem deliveries_timeOut (pool : Pool) (key : SessionKey) (flow : Flow) :
    deliveries (pool.timeOut (key, flow)) =
      (flow.deadline.map fun deadline =>
        ⟨key, flow.message.markTimedOut, .timedOut, dueTime deadline⟩).toList := by
  unfold timeOut
  cases flow.deadline with
  | none => rfl
  | some deadline =>
      exact pool.deliveries_dispatch key flow.message.markTimedOut .timedOut (dueTime deadline)

theorem deliveries_take_of_packet?_eq_none (pool : Pool) {input : Input}
    (brings : input.packet? = none) (registry : Registry) :
    deliveries (pool.take registry input).effects = [] := by
  rcases (take_of_packet?_eq_none brings registry).2 with quiet | ⟨size, error, quiet⟩ <;>
    rw [quiet] <;> rfl

end Pool

/-! ## The ended lives are delivered -/

namespace Ledger

theorem registry_keys (pool : Pool) (ledger : Ledger) :
    (ledger.registry pool).keys = ledger.live.map Life.key := by
  simp only [registry, Registry.keys, List.map_map]
  rfl

theorem filter_key {lives : List Life} {life : Life} (distinct : (lives.map Life.key).Nodup)
    (member : life ∈ lives) :
    lives.filter (fun other => decide (other.key = life.key)) = [life] := by
  induction lives with
  | nil => cases member
  | cons first rest ih =>
      obtain ⟨fresh, distinct⟩ := List.nodup_cons.mp distinct
      cases List.mem_cons.mp member with
      | inl here =>
          subst here
          have others : rest.filter (fun other => decide (other.key = life.key)) = [] := by
            apply List.filter_eq_nil_iff.mpr
            intro other inside same
            have equal : other.key = life.key := by simpa using same
            exact fresh (equal ▸ List.mem_map_of_mem inside)
          simp [others]
      | inr later =>
          have differs : first.key ≠ life.key := by
            intro equal
            exact fresh (equal ▸ List.mem_map_of_mem later)
          simp [differs, ih distinct later]

def deliveries (pool : Pool) (ledger : Ledger) : List Delivery :=
  ledger.ended.filterMap (Ended.delivery? pool)

theorem filterMap_singleton_delivery? (pool : Pool) (ended : Ended) :
    [ended].filterMap (Ended.delivery? pool) =
      ((ended.life.flow pool).deadline.map fun _ => ended.delivery pool).toList := by
  rw [List.filterMap_cons]
  unfold Ended.delivery?
  cases (ended.life.flow pool).deadline <;> rfl

theorem deliveries_finishSide {pool : Pool} {ledger : Ledger}
    (unambiguous : (ledger.registry pool).Unambiguous) (src dst : Endpoint) :
    (ledger.finishSide pool src dst).deliveries pool =
      ledger.deliveries pool ++
        Reassembly.deliveries (pool.resetSide (ledger.registry pool) src dst).effects := by
  unfold finishSide
  rcases pool.resetSide_cases (ledger.registry pool) src dst with
    ⟨unfiled, same⟩ | ⟨key, flow, filed, found, ended⟩
  · rw [same, unfiled]
    exact (List.append_nil _).symm
  · rw [ended, filed, Pool.deliveries_retire]
    obtain ⟨life, -, member, rfl, rfl⟩ := live_of_find? found
    have distinct : (ledger.live.map Life.key).Nodup := registry_keys pool ledger ▸ unambiguous
    have single := filter_key distinct member
    simp only [deliveries, finish, single, List.filterMap_append, List.map_cons, List.map_nil,
      filterMap_singleton_delivery?]
    rfl

theorem deliveries_record (pool : Pool) (ledger : Ledger) (life : Life) (packet : Packet) :
    (ledger.record pool life packet).deliveries pool =
      ledger.deliveries pool ++ Reassembly.deliveries
        (pool.append (ledger.registry pool) life.key (life.flow pool) packet).effects := by
  by_cases complete : pool.complete (life.flow pool).message packet = .ok true
  · rw [record_of_complete complete, Pool.append_of_complete complete]
    rw [deliveries_append, Pool.deliveries_cutEffects, Pool.deliveries_retire]
    simp only [deliveries, List.filterMap_append, List.nil_append,
      filterMap_singleton_delivery?, Ended.delivery, Ended.message, Life.message_add]
    rfl
  · rw [record_of_incomplete complete, (Pool.append_of_incomplete complete _ life.key).2,
      Pool.deliveries_cutEffects]
    exact (List.append_nil _).symm

theorem deliveries_enroll (pool : Pool) (ledger : Ledger) (direction : Direction)
    (packet : Packet) :
    (ledger.enroll pool direction packet).deliveries pool =
      ledger.deliveries pool ++ Reassembly.deliveries
        (pool.openWith (ledger.registry pool) direction packet).effects := by
  have recorded := deliveries_record pool ledger (ledger.newborn direction packet) packet
  have own : (ledger.newborn direction packet).flow pool =
      ⟨.opened direction packet,
        deadlineAfter? (ledger.registry pool).clock pool.limits.expiry⟩ := rfl
  unfold enroll
  cases deadline : deadlineAfter? (ledger.registry pool).clock pool.limits.expiry with
  | none =>
      rw [Pool.openWith_of_overflow deadline]
      rw [deadline] at own
      simp only [own]
      exact (List.append_nil _).symm
  | some time =>
      rw [Pool.openWith_of_deadline deadline]
      rw [deadline] at own
      rw [own] at recorded
      simp only [own, recorded]
      rfl

theorem deliveries_takePacket {pool : Pool} {ledger : Ledger}
    (unambiguous : (ledger.registry pool).Unambiguous) (packet : Packet) :
    (ledger.takePacket pool packet).deliveries pool =
      ledger.deliveries pool ++
        Reassembly.deliveries (pool.takePacket (ledger.registry pool) packet).effects := by
  have taken := pool.takes (ledger.registry pool) packet
  generalize pool.takePacket (ledger.registry pool) packet = outcome at taken
  unfold takePacket
  cases taken with
  | resets rst =>
      have between : ((ledger.finishSide pool packet.src packet.dst).registry pool).Unambiguous := by
        rw [registry_finishSide]
        exact Pool.resetSide_unambiguous unambiguous pool packet.src packet.dst
      rw [if_pos rst, deliveries_finishSide between, deliveries_finishSide unambiguous,
        registry_finishSide]
      have report : Reassembly.deliveries
          [.say (.reset packet.src packet.dst packet.timestamp)] = [] := rfl
      simp only [Pool.reset, deliveries_append, report, List.append_nil, List.append_assoc]
  | joins key flow plain filed found =>
      obtain ⟨life, first, -, own, rfl⟩ := live_of_find? found
      simp only [plain, Bool.false_eq_true, if_false, filed, first]
      rw [deliveries_record, own]
  | drops plain unfiled closed =>
      simp only [plain, Bool.false_eq_true, if_false, unfiled, closed]
      exact (List.append_nil _).symm
  | opens direction plain unfiled answer =>
      simp only [plain, Bool.false_eq_true, if_false, unfiled, answer]
      exact deliveries_enroll pool ledger direction packet

theorem deliveries_expire (pool : Pool) (ledger : Ledger) (limit : Nat) :
    (ledger.expire pool limit).deliveries pool =
      ledger.deliveries pool ++
        Reassembly.deliveries (pool.timeOutBefore (ledger.registry pool) limit).effects := by
  have timed : ∀ due : List Life,
      (due.map fun life => (⟨life, .timedOut, dueTime ((life.flow pool).deadline.getD 0),
          ledger.place⟩ : Ended)).filterMap (Ended.delivery? pool) =
        Reassembly.deliveries ((due.map (Life.entry pool)).flatMap pool.timeOut) := by
    intro due
    induction due with
    | nil => rfl
    | cons life rest ih =>
        have first : Reassembly.deliveries (pool.timeOut (life.entry pool)) =
            [(⟨life, .timedOut, dueTime ((life.flow pool).deadline.getD 0), ledger.place⟩ :
              Ended)].filterMap (Ended.delivery? pool) := by
          rw [Life.entry, Pool.deliveries_timeOut, filterMap_singleton_delivery?]
          dsimp only
          generalize (life.flow pool).deadline = deadline
          cases deadline with
          | none => simp only [Option.map_none]
          | some deadline =>
              simp only [Option.map_some, Option.getD_some, Ended.delivery, Ended.message,
                Life.flow]
        rw [List.map_cons, List.map_cons, List.flatMap_cons, deliveries_append, first, ← ih,
          ← List.filterMap_append]
        rfl
  simp only [deliveries, expire, finish, List.filterMap_append, timed, Pool.timeOutBefore,
    registry, List.filter_map]
  rfl

theorem deliveries_act {pool : Pool} {ledger : Ledger}
    (unambiguous : (ledger.registry pool).Unambiguous) (action : Pool.Action) :
    (ledger.act pool action).deliveries pool =
      ledger.deliveries pool ++
        Reassembly.deliveries (pool.act (ledger.registry pool) action).effects := by
  cases action with
  | take input =>
      cases brings : input.packet? with
      | none =>
          have silent := pool.deliveries_take_of_packet?_eq_none brings (ledger.registry pool)
          simp only [act, turn, Pool.act, brings, silent, List.append_nil]
          rfl
      | some packet =>
          have taken := deliveries_takePacket unambiguous packet
          simp only [act, turn, Pool.act, brings, Pool.take_of_packet? brings, ← taken]
          rfl
  | elapse nanos => exact deliveries_expire pool ledger (ledger.clock + nanos)
  | settle => exact deliveries_expire pool ledger (ledger.clock + 1)

end Ledger

/-- What a run delivers is what its ledger says has ended under a watcher's eyes. -/
theorem Pool.ledger_deliveries (pool : Pool) (actions : List Pool.Action) :
    deliveries (pool.effects actions) = (pool.ledger actions).deliveries pool := by
  induction actions using List.reverseRecOn with
  | nil => rfl
  | append_singleton actions action ih =>
      have unambiguous := pool.after_unambiguous actions
      rw [← pool.ledger_registry actions] at unambiguous
      rw [effects_concat, deliveries_append, ih, ledger_concat,
        Ledger.deliveries_act unambiguous, pool.ledger_registry actions]

end Reassembly
