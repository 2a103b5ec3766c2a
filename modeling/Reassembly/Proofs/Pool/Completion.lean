import Reassembly.Proofs.Pool.LedgerEndings

/-!
# When a message is complete

A message is complete with the first packet that triggers it: one that fills it up to
the size cap, one with which the completion rule holds, or one with FIN.  It is then
dispatched by the call that takes the packet in.  Every other ending is a reset or a
time-out of a message that nothing has triggered.
-/

set_option autoImplicit false

namespace Reassembly

/-- What completes a message has happened with a life's last packet. -/
def Life.Triggered (pool : Pool) (life : Life) : Prop :=
  pool.limits.maxSize ≤ life.payload.length ∨
    pool.hooks.completes (life.message pool.limits.maxSize) = .ok true ∨
    ∃ last, life.packets.getLast? = some last ∧ last.flags.fin = true

namespace Life

variable {pool : Pool} {life : Life}

theorem triggered_add_iff (calm : pool.hooks.Calm) (stays : life.Open pool) (place : Nat)
    (packet : Packet) :
    (life.add place packet).Triggered pool ↔
      pool.complete (life.flow pool).message packet = .ok true := by
  have own : (life.flow pool).message = life.message pool.limits.maxSize := rfl
  rw [Pool.complete_eq_true_iff calm, own, stays.length_eq, ← message_add _ life place]
  simp [Triggered, payload_add, packets_add]

theorem Open.not_triggered (stays : life.Open pool) (calm : pool.hooks.Calm) {count : Nat}
    (positive : 0 < count) (inside : count ≤ life.given.length) :
    ¬(life.upTo count).Triggered pool := by
  -- the last of these packets would have triggered the message, but it left it open
  obtain ⟨before, rfl⟩ := Nat.exists_eq_succ_of_ne_zero (Nat.ne_of_gt positive)
  have here : life.given[before]? = some life.given[before] :=
    List.getElem?_eq_getElem inside
  have next : (life.upTo (before + 1)).Open pool := stays.upTo (before + 1)
  rw [upTo_succ here] at next ⊢
  obtain ⟨earlier, incomplete⟩ := next.of_add
  exact fun triggered => incomplete ((triggered_add_iff calm earlier _ _).mp triggered)

theorem message_timedOut (maxSize : Nat) (life : Life) :
    (life.message maxSize).stats.timedOut = false := by
  refine Pool.foldl_grown_keeps (fun message => message.stats.timedOut = false) ?_ life.packets rfl
  intro message packet patient
  rw [Pool.grown_eq]
  split <;> exact patient

end Life

namespace Ended

variable {pool : Pool} {ended : Ended}

theorem Lawful.completed_iff (lawful : ended.Lawful pool) (calm : pool.hooks.Calm)
    (nonempty : 0 < ended.life.given.length) :
    ended.termination = .completed ↔ ended.life.Triggered pool := by
  -- a reset or timed-out message is still open, so only the completed case can be triggered
  have quiet : ended.life.Open pool → ¬ended.life.Triggered pool := by
    intro stays
    have last := stays.not_triggered calm nonempty (Nat.le_refl _)
    rwa [Life.upTo_length] at last
  obtain ⟨life, termination, time, place⟩ := ended
  cases termination with
  | completed =>
      obtain ⟨before, at?, packet, rfl, stays, complete⟩ := lawful
      simp only [true_iff]
      exact (Life.triggered_add_iff calm stays at? packet).mpr complete
  | reset => simpa using quiet lawful
  | timedOut => simpa using quiet lawful

theorem timedOut_iff (pool : Pool) (ended : Ended) :
    (ended.delivery pool).message.stats.timedOut = true ↔ ended.termination = .timedOut := by
  obtain ⟨life, termination, time, place⟩ := ended
  have patient := life.message_timedOut pool.limits.maxSize
  cases termination with
  | completed => simp [delivery, message, patient]
  | reset => simp [delivery, message, patient]
  | timedOut => simp [delivery, message, Message.markTimedOut]

end Ended

namespace Pool

/-- Every message of a run ends with the first packet that triggers it, or it is not triggered at
all: nothing before the last packet of a dispatched message triggered it, it was dispatched as
completed if and only if its last packet triggered it, each ending has its reason in the action
at its place, a time-out is marked on the message, and no packet of a tracked message triggered
it. -/
structure Completes (pool : Pool) (actions : List Action) (ledger : Ledger) : Prop
    extends Traces pool actions ledger where
  earlier : ∀ ended ∈ ledger.ended, ∀ count, 0 < count → count < ended.life.given.length →
    ¬(ended.life.upTo count).Triggered pool
  completed : ∀ ended ∈ ledger.ended,
    ended.termination = .completed ↔ ended.life.Triggered pool
  due : ∀ ended ∈ ledger.ended, ∃ action, actions[ended.place]? = some action ∧ ended.Due action
  marked : ∀ ended ∈ ledger.ended,
    (ended.delivery pool).message.stats.timedOut = true ↔ ended.termination = .timedOut
  live : ∀ life ∈ ledger.live, ∀ count, 0 < count → count ≤ life.given.length →
    ¬(life.upTo count).Triggered pool

theorem ledger_completes (pool : Pool) (calm : pool.hooks.Calm) (actions : List Action)
    (fits : pool.Schedulable (pool.after actions).clock) :
    pool.Completes actions (pool.ledger actions) := by
  have lawful := ledger_lawful fits
  have traces := ledger_traces fits
  have listed : ∀ ended ∈ (pool.ledger actions).ended,
      ended.life ∈ (pool.ledger actions).lives := by
    intro ended member
    exact List.mem_append_right _ (List.mem_map_of_mem member)
  constructor
  case toTraces => exact traces
  case earlier =>
      intro ended member count positive inside
      have stays := ledger_upTo_open fits ended.life (listed ended member) count inside
      have all : (ended.life.upTo count).given.length = count := by
        simp only [Life.upTo, List.length_take]
        omega
      have quiet := stays.not_triggered calm positive (Nat.le_of_eq all.symm)
      simpa only [Life.upTo, List.take_take, Nat.min_self] using quiet
  case completed =>
      intro ended member
      have begun := traces.begun ended.life (listed ended member)
      have nonempty : 0 < ended.life.given.length := by
        apply List.length_pos_of_ne_nil
        intro none
        rw [none] at begun
        cases begun
      exact (lawful.ended ended member).completed_iff calm nonempty
  case due => exact pool.ledger_due actions
  case marked =>
      intro ended _
      exact ended.timedOut_iff pool
  case live =>
      intro life member count positive inside
      exact (lawful.live life member).not_triggered calm positive inside

theorem ledger_completes_varied :
    hasty.hooks.Calm ∧
      (hasty.ledger varied).ended.map Ended.termination =
        [.completed, .completed, .completed, .reset, .timedOut] ∧
      hasty.Completes varied (hasty.ledger varied) := by
  have calm : hasty.hooks.Calm := fun _ => ⟨_, rfl⟩
  refine ⟨calm, by decide +kernel, ledger_completes hasty calm varied ?_⟩
  decide +kernel

end Pool

end Reassembly
