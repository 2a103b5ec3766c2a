import Mathlib.Algebra.Ring.Int.Defs
import Mathlib.Data.List.Basic
import Reassembly.Proofs.Pool.Runs

/-!
# The gauge of active messages

The gauge goes up where a message is filed and down where one is dispatched or lost, which are
different places, so that it shows the size of the registry is a property of runs.  Every action
moves the gauge by as much as it changes the size (`act_balanced`), whatever it does: a call that
fails over a deadline has filed its message, and a message without a watcher is lost and counted
down.  Rules and a handler that keep a state of their own may answer anew at every action;
`gauge_steady` covers them.
-/

set_option autoImplicit false

namespace Reassembly

/-! ## How far the gauge moves -/

def Tick.drift : Tick → Int
  | .opened => 1
  | .closed => -1
  | .dispatched _ => 0
  | .truncated => 0
  | .undecodable => 0

theorem Counters.tick_active (counters : Counters) (tick : Tick) :
    (counters.tick tick).active = counters.active + tick.drift := by
  cases tick with
  | dispatched termination => cases termination <;> exact (Int.add_zero _).symm
  | opened => rfl
  | closed => rfl
  | truncated => exact (Int.add_zero _).symm
  | undecodable => exact (Int.add_zero _).symm

theorem Counters.tickAll_active (counters : Counters) (ticks : List Tick) :
    (counters.tickAll ticks).active = counters.active + (ticks.map Tick.drift).sum := by
  induction ticks generalizing counters with
  | nil => simp [tickAll]
  | cons tick rest ih =>
      have later := ih (counters.tick tick)
      rw [tick_active] at later
      simp only [tickAll, List.foldl_cons, List.map_cons, List.sum_cons] at later ⊢
      rw [later, Int.add_assoc]

def drift (effects : List Effect) : Int :=
  ((effects.filterMap Effect.tick?).map Tick.drift).sum

@[simp] theorem drift_nil : drift [] = 0 := rfl

@[simp] theorem drift_append (front back : List Effect) :
    drift (front ++ back) = drift front + drift back := by
  simp [drift]

@[simp] theorem drift_count (tick : Tick) (rest : List Effect) :
    drift (.count tick :: rest) = tick.drift + drift rest := by
  simp [drift, Effect.tick?]

@[simp] theorem drift_say (diagnostic : Diagnostic) (rest : List Effect) :
    drift (.say diagnostic :: rest) = drift rest := rfl

@[simp] theorem drift_note (notice : Notice) (rest : List Effect) :
    drift (.note notice :: rest) = drift rest := rfl

@[simp] theorem drift_deliver (delivery : Delivery) (rest : List Effect) :
    drift (.deliver delivery :: rest) = drift rest := rfl

theorem Counters.ofEffects_active (effects : List Effect) :
    (Counters.ofEffects effects).active = drift effects := by
  rw [ofEffects, tickAll_active]
  exact Int.zero_add _

/-! ## How many entries an operation leaves -/

namespace Registry

theorem size_insert (registry : Registry) (key : SessionKey) (flow : Flow) :
    (registry.insert key flow).size = (registry.erase key).size + 1 := by
  simp [size, insert]

theorem size_erase_of_find? {registry : Registry} (unambiguous : registry.Unambiguous)
    {key : SessionKey} {flow : Flow} (found : registry.find? key = some flow) :
    (registry.erase key).size + 1 = registry.size := by
  have own := congrArg List.length (filter_key unambiguous key)
  have filed : lookup key registry.flows = some flow := found
  simp only [filed, Option.toList_some, List.map_cons, List.map_nil, List.length_singleton] at own
  have parts := registry.flows.length_eq_length_filter_add fun entry => decide (entry.1 = key)
  simp only [size, erase, ne_eq, decide_not]
  omega

theorem size_erase_of_free {registry : Registry} {key : SessionKey}
    (free : registry.find? key = none) : (registry.erase key).size = registry.size := by
  have kept : (registry.flows.filter fun entry => decide (entry.1 ≠ key)) = registry.flows := by
    apply List.filter_eq_self.mpr
    intro entry member
    have absent := find?_eq_none_iff.mp free
    have filed : entry.1 ∈ registry.keys := List.mem_map_of_mem member
    simpa using fun same : entry.1 = key => absent (same ▸ filed)
  exact congrArg List.length kept

end Registry

/-! ## What one action does -/

/-- The gauge moved by as much as the number of entries changed. -/
def Balanced (before after : Registry) (effects : List Effect) : Prop :=
  (after.size : Int) = before.size + drift effects

namespace Balanced

theorem still (registry : Registry) : Balanced registry registry [] :=
  (Int.add_zero _).symm

theorem andThen {first second third : Registry} {early late : List Effect}
    (front : Balanced first second early) (back : Balanced second third late) :
    Balanced first third (early ++ late) := by
  unfold Balanced at *
  rw [drift_append]
  omega

end Balanced

namespace Pool

theorem drift_dispatch (pool : Pool) (key : SessionKey) (message : Message)
    (termination : Termination) (time : Nat) :
    drift (pool.dispatch key message termination time) = -1 := by
  unfold dispatch
  cases pool.handler message <;> simp [Tick.drift]

/-- A message that nobody waits for is counted down like one that is dispatched. -/
theorem drift_retire (pool : Pool) (key : SessionKey) (flow : Flow) (termination : Termination)
    (time : Nat) : drift (pool.retire key flow termination time) = -1 := by
  unfold retire
  cases flow.deadline with
  | none => simp [Tick.drift]
  | some deadline => exact pool.drift_dispatch key flow.message termination time

theorem drift_cutEffects (maxSize : Nat) (key : SessionKey) (message : Message)
    (packet : Packet) : drift (cutEffects maxSize key message packet) = 0 := by
  unfold cutEffects
  split <;> simp [Tick.drift]

theorem drift_timeOut {entry : SessionKey × Flow} {limit : Nat}
    (due : entry.2.dueBefore limit = true) (pool : Pool) : drift (pool.timeOut entry) = -1 := by
  obtain ⟨deadline, watched, -⟩ := Flow.dueBefore_iff.mp due
  unfold timeOut
  rw [watched]
  simp [drift_dispatch]

theorem append_balanced (pool : Pool) (registry : Registry) (key : SessionKey) (flow : Flow)
    (packet : Packet) :
    Balanced (registry.insert key flow) (pool.append registry key flow packet).registry
      (pool.append registry key flow packet).effects := by
  unfold Balanced
  by_cases complete : pool.complete flow.message packet = .ok true
  · rw [append_of_complete complete, drift_append, drift_cutEffects, drift_retire,
      Registry.size_insert]
    dsimp only
    omega
  · obtain ⟨filed, effects⟩ := append_of_incomplete complete registry key
    rw [filed, effects, drift_cutEffects, Registry.size_insert, Registry.size_insert]
    omega

theorem openWith_balanced {registry : Registry} {direction : Direction} {packet : Packet}
    (free : registry.find? (.of direction packet.src packet.dst) = none) (pool : Pool) :
    Balanced registry (pool.openWith registry direction packet).registry
      (pool.openWith registry direction packet).effects := by
  have filing : ∀ flow, Balanced registry
      (registry.insert (.of direction packet.src packet.dst) flow) [.count .opened] := by
    intro flow
    unfold Balanced
    rw [Registry.size_insert, Registry.size_erase_of_free free]
    rfl
  cases named : deadlineAfter? registry.clock pool.limits.expiry with
  | none =>
      rw [openWith_of_overflow named]
      exact filing _
  | some deadline =>
      rw [openWith_of_deadline named]
      exact (filing _).andThen (pool.append_balanced registry _ _ packet)

theorem resetSide_balanced {registry : Registry} (unambiguous : registry.Unambiguous)
    (pool : Pool) (src dst : Endpoint) :
    Balanced registry (pool.resetSide registry src dst).registry
      (pool.resetSide registry src dst).effects := by
  rcases pool.resetSide_cases registry src dst with ⟨-, same⟩ | ⟨key, flow, -, found, ended⟩
  · rw [same]
    exact Balanced.still registry
  · have left := Registry.size_erase_of_find? unambiguous found
    unfold Balanced
    rw [ended, drift_retire]
    dsimp only
    omega

theorem takePacket_balanced {registry : Registry} (unambiguous : registry.Unambiguous)
    (pool : Pool) (packet : Packet) :
    Balanced registry (pool.takePacket registry packet).registry
      (pool.takePacket registry packet).effects := by
  have taken := pool.takes registry packet
  generalize pool.takePacket registry packet = outcome at taken
  cases taken with
  | resets rst =>
      have sender := resetSide_balanced unambiguous pool packet.src packet.dst
      have between := resetSide_unambiguous unambiguous pool packet.src packet.dst
      have receiver := resetSide_balanced between pool packet.dst packet.src
      exact (sender.andThen receiver).andThen (Balanced.still _)
  | joins key flow plain filed found =>
      have same : Balanced registry (registry.insert key flow) [] := by
        have left := Registry.size_erase_of_find? unambiguous found
        unfold Balanced
        rw [Registry.size_insert, left]
        exact (Int.add_zero _).symm
      exact same.andThen (pool.append_balanced registry key flow packet)
  | drops plain unfiled closed => exact Balanced.still registry
  | opens direction plain unfiled answer =>
      exact openWith_balanced (find?_of_unfiled unfiled direction) pool

theorem drift_timeOuts {due : List (SessionKey × Flow)} {limit : Nat}
    (all : ∀ entry ∈ due, entry.2.dueBefore limit = true) (pool : Pool) :
    drift (due.flatMap pool.timeOut) = -(due.length : Int) := by
  induction due with
  | nil => rfl
  | cons entry rest ih =>
      have first := drift_timeOut (all entry List.mem_cons_self) pool
      have later := ih fun other member => all other (List.mem_cons_of_mem _ member)
      rw [List.flatMap_cons, drift_append, first, later, List.length_cons]
      omega

theorem timeOutBefore_balanced (pool : Pool) (registry : Registry) (limit : Nat) :
    Balanced registry (pool.timeOutBefore registry limit).registry
      (pool.timeOutBefore registry limit).effects := by
  have due : ∀ entry ∈ registry.flows.filter fun entry => entry.2.dueBefore limit,
      entry.2.dueBefore limit = true :=
    fun entry member => (List.mem_filter.mp member).2
  have gone := drift_timeOuts due pool
  have parts := registry.flows.length_eq_length_filter_add fun entry => entry.2.dueBefore limit
  unfold Balanced
  simp only [timeOutBefore, Registry.size]
  rw [gone]
  omega

theorem act_balanced {registry : Registry} (unambiguous : registry.Unambiguous) (pool : Pool)
    (action : Action) :
    Balanced registry (pool.act registry action).registry (pool.act registry action).effects := by
  cases action with
  | take input =>
      simp only [act]
      cases brings : input.packet? with
      | none =>
          obtain ⟨same, quiet | ⟨size, error, quiet⟩⟩ :=
            take_of_packet?_eq_none brings registry
          · rw [same, quiet]
            exact Balanced.still registry
          · rw [same, quiet]
            exact Balanced.still registry
      | some packet =>
          rw [take_of_packet? brings]
          exact takePacket_balanced unambiguous pool packet
  | elapse nanos => exact pool.timeOutBefore_balanced registry (registry.clock + nanos)
  | settle => exact pool.timeOutBefore_balanced registry (registry.clock + 1)

/-! ## Runs in which the owner's code changes its mind -/

/-- What the owner's code answers while one action happens. -/
structure Answers where
  hooks : Hooks
  handler : Handler

def answers (pool : Pool) : Answers :=
  ⟨pool.hooks, pool.handler⟩

def answering (pool : Pool) (answers : Answers) : Pool :=
  { pool with hooks := answers.hooks, handler := answers.handler }

/-- A run in which rules and handler may answer in another way at every action, as they can if
they keep a state.  An action asks the completion rule once at most, so a function says all that
it can answer there. -/
def performWith (pool : Pool) : Registry → List (Answers × Action) → Step
  | registry, [] => ⟨registry, [], []⟩
  | registry, (answers, action) :: rest =>
      let first := (pool.answering answers).act registry action
      let later := performWith pool first.registry rest
      ⟨later.registry, first.effects ++ later.effects, first.faults ++ later.faults⟩

/-- Rules and a handler that always answer in the same way give an ordinary run. -/
theorem performWith_answers (pool : Pool) (registry : Registry) (actions : List Action) :
    pool.performWith registry (actions.map fun action => (pool.answers, action)) =
      pool.perform registry actions := by
  induction actions generalizing registry with
  | nil => rfl
  | cons action rest ih =>
      simp only [List.map_cons, performWith, perform, ih]
      rfl

theorem performWith_balanced {registry : Registry} (unambiguous : registry.Unambiguous)
    (pool : Pool) (turns : List (Answers × Action)) :
    Balanced registry (pool.performWith registry turns).registry
      (pool.performWith registry turns).effects := by
  induction turns generalizing registry with
  | nil => exact Balanced.still registry
  | cons turn rest ih =>
      obtain ⟨answers, action⟩ := turn
      have first := act_balanced unambiguous (pool.answering answers) action
      have between := act_unambiguous unambiguous (pool.answering answers) action
      exact first.andThen (ih between)

/-- Whatever happens, and whatever fails, the gauge shows the number of messages in progress:
it is never negative, and it is zero where no message is in progress and nowhere else. -/
theorem gauge_steady (pool : Pool) (turns : List (Answers × Action)) :
    let ran := pool.performWith .empty turns
    let gauge := (Counters.ofEffects ran.effects).active
    gauge = ran.registry.size ∧ 0 ≤ gauge ∧ (gauge = 0 ↔ ran.registry.flows = []) := by
  intro ran gauge
  have fresh : Registry.empty.Unambiguous := List.nodup_nil
  have moved : (ran.registry.size : Int) = (0 : Nat) + drift ran.effects :=
    performWith_balanced fresh pool turns
  have shows : gauge = ran.registry.size := by
    rw [moved]
    exact (Counters.ofEffects_active ran.effects).trans (Int.zero_add _).symm
  refine ⟨shows, by omega, ?_⟩
  have none_left : ran.registry.size = 0 ↔ ran.registry.flows = [] := List.length_eq_zero_iff
  rw [← none_left]
  omega

end Pool

end Reassembly
