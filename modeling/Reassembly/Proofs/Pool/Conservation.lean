import Mathlib.Data.List.Basic
import Reassembly.Proofs.Pool.LedgerLives

/-!
# No message is lost and none is doubled

As long as a message that is opened gets a deadline, the messages that a run opens
are the ones that are still tracked and the ones that were delivered, each of them
once, and every delivery is counted under one label.  A message is only opened
under a key that is free.
-/

set_option autoImplicit false

namespace Reassembly

namespace Pool

/-! ## Every message has a watcher -/

theorem clock_le_after_append (pool : Pool) (first second : List Action) :
    (pool.after first).clock ≤ (pool.after (first ++ second)).clock := by
  induction second using List.reverseRecOn with
  | nil => simp
  | append_singleton second action ih =>
      rw [← List.append_assoc, after_concat]
      exact Nat.le_trans ih (pool.clock_le_act _ action)

theorem registryAt_clock_le (pool : Pool) (actions : List Action) (place : Nat) :
    (pool.registryAt actions place).clock ≤ (pool.after actions).clock := by
  have upTo := pool.clock_le_after_append (actions.take place) (actions.drop place)
  rw [List.take_append_drop] at upTo
  exact upTo

theorem ledger_watched {pool : Pool} {actions : List Action}
    (fits : pool.Schedulable (pool.after actions).clock) {life : Life}
    (member : life ∈ (pool.ledger actions).lives) :
    ∃ deadline, (life.flow pool).deadline = some deadline := by
  have since := (ledger_genuine fits life member).since
  have early := fits.of_le (pool.registryAt_clock_le actions life.birth)
  rw [← since] at early
  exact Option.isSome_iff_exists.mp early

theorem ledger_delivery? {pool : Pool} {actions : List Action}
    (fits : pool.Schedulable (pool.after actions).clock) {ended : Ended}
    (member : ended ∈ (pool.ledger actions).ended) :
    ended.delivery? pool = some (ended.delivery pool) := by
  have inside : ended.life ∈ (pool.ledger actions).lives :=
    List.mem_append_right _ (List.mem_map_of_mem member)
  obtain ⟨deadline, watched⟩ := ledger_watched fits inside
  rw [Ended.delivery?, watched, Option.map_some]

theorem ledger_delivered {pool : Pool} {actions : List Action}
    (fits : pool.Schedulable (pool.after actions).clock) :
    deliveries (pool.effects actions) =
      (pool.ledger actions).ended.map (Ended.delivery pool) := by
  rw [ledger_deliveries, Ledger.deliveries]
  apply List.filterMap_eq_map_iff_forall_eq_some.mpr
  intro ended member
  exact ledger_delivery? fits member

/-! ## Counts -/

theorem effects_accounted {pool : Pool} {actions : List Action}
    (fits : pool.Schedulable (pool.after actions).clock) :
    Accounted (pool.openings actions).length (pool.effects actions) := by
  induction actions using List.reverseRecOn with
  | nil => exact Accounted.nil
  | append_singleton actions action ih =>
      have before := ih fits.of_concat
      have here := pool.ledger_registry actions
      obtain ⟨next, turned, now⟩ := ledger_turns fits
      rw [effects_concat]
      cases turned with
      | rests _ idle sheds accounted =>
          rw [openings_concat_of_none (here ▸ accounted)]
          exact before.append (here ▸ accounted)
      | joins life packet brings plain member filed accounted =>
          rw [openings_concat_of_none (here ▸ accounted)]
          exact before.append (here ▸ accounted)
      | opens direction packet brings plain unfiled answer accounted =>
          rw [openings_concat_of_one (here ▸ accounted), List.length_append]
          exact before.append (here ▸ accounted)

/-! ## The balance of a run -/

/-- The live messages of a ledger are the tracked ones.  Its ended messages are the
dispatched ones, in order, each counted under its own label.  Together they are what the
run has opened, each message standing for its place of birth and no place standing twice. -/
structure Balances (pool : Pool) (actions : List Action) (ledger : Ledger) : Prop where
  tracked : (pool.after actions).flows = ledger.live.map (Life.entry pool)
  dispatched : deliveries (pool.effects actions) = ledger.ended.map (Ended.delivery pool)
  labelled : labels (pool.effects actions) = ledger.ended.map Ended.termination
  genuine : ∀ life ∈ ledger.lives, life.Genuine pool actions
  opened : (ledger.live.map Life.birth ++ ledger.ended.map fun ended => ended.life.birth).Perm
    (pool.openings actions)
  once : (pool.openings actions).Nodup
  counted : (pool.effects actions).count (.count .opened) = (pool.openings actions).length
  /-- Opening a message replaces none. -/
  vacant : ∀ place ∈ pool.openings actions, ∀ packet direction,
    packetAt? actions place = some packet → pool.hooks.opens packet = some direction →
      (pool.registryAt actions place).find? (.of direction packet.src packet.dst) = none
  distinct : (pool.after actions).Unambiguous

/-- Every message that a run opens is tracked or was dispatched, once and not both. -/
theorem ledger_balances (pool : Pool) (actions : List Action)
    (fits : pool.Schedulable (pool.after actions).clock) :
    pool.Balances actions (pool.ledger actions) := by
  have genuine := ledger_genuine fits
  have accounted := effects_accounted fits
  have delivered := ledger_delivered fits
  have births := ledger_births fits
  constructor
  case tracked =>
      rw [← ledger_registry]
      rfl
  case dispatched => exact delivered
  case labelled =>
      rw [accounted.labels, delivered, List.map_map]
      rfl
  case genuine => exact genuine
  case opened =>
      simp only [Ledger.lives, List.map_append, List.map_map] at births
      exact births
  case once => exact placesWhere_nodup pool _ actions
  case counted => exact accounted.opened
  case vacant =>
      intro place member packet direction brought answer
      obtain ⟨life, inside, rfl⟩ := List.mem_map.mp (births.mem_iff.mpr member)
      have opener : packet = life.opener :=
        Option.some.inj (brought.symm.trans (genuine life inside).brought)
      subst opener
      have same : direction = life.direction :=
        Option.some.inj (answer.symm.trans (genuine life inside).answer)
      subst same
      exact (genuine life inside).key_free
  case distinct => exact pool.after_unambiguous actions

theorem ledger_balances_brief :
    touchy.openings brief = [0, 1, 7] ∧ touchy.Balances brief (touchy.ledger brief) := by
  refine ⟨by decide +kernel, ledger_balances touchy brief ?_⟩
  decide +kernel

end Pool

end Reassembly
