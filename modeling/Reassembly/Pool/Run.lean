import Reassembly.Pool.Intake

/-!
# Running a pool

Everything that happens to a pool is a list of three actions: an input is taken
in, time passes up to an instant, and the deadlines of the present instant are
noticed.  A flow whose deadline is noticed leaves the registry and its message is
dispatched as timed out.  Packets that arrive at the very instant of a deadline
are served before it, so passing time and noticing deadlines are two actions.
-/

set_option autoImplicit false

namespace Reassembly

/-- The registry after an action or several, what they did, and the fault, if any, of
each input that they took in. -/
structure Step where
  registry : Registry
  effects : List Effect
  faults : List (Option IntakeFault)
  deriving DecidableEq

namespace Pool

def timeOut (pool : Pool) (entry : SessionKey × Flow) : List Effect :=
  match entry.2.deadline with
  | none => []
  | some deadline =>
      .say (.timedOut entry.1 pool.limits.expiry entry.2.message.length) ::
        pool.dispatch entry.1 entry.2.message.markTimedOut .timedOut (dueTime deadline)

def timeOutBefore (pool : Pool) (registry : Registry) (limit : Nat) : Step :=
  let due := registry.flows.filter fun entry => entry.2.dueBefore limit
  let others := registry.flows.filter fun entry => !entry.2.dueBefore limit
  ⟨{ registry with flows := others }, due.flatMap pool.timeOut, []⟩

inductive Action where
  | take (input : Input)
  /-- Time passes up to an instant; the deadlines of that instant are still to come. -/
  | elapse (nanos : Nat)
  /-- The deadlines of the present instant are noticed. -/
  | settle
  deriving DecidableEq

def act (pool : Pool) (registry : Registry) : Action → Step
  | .take input =>
      let taken := pool.take registry input
      ⟨taken.registry, taken.effects, [taken.fault]⟩
  | .elapse nanos =>
      let now := registry.clock + nanos
      let timed := pool.timeOutBefore registry now
      { timed with registry := { timed.registry with clock := now } }
  | .settle => pool.timeOutBefore registry (registry.clock + 1)

def perform (pool : Pool) : Registry → List Action → Step
  | registry, [] => ⟨registry, [], []⟩
  | registry, action :: rest =>
      let first := pool.act registry action
      let later := perform pool first.registry rest
      ⟨later.registry, first.effects ++ later.effects, first.faults ++ later.faults⟩

/-- What is done to a pool from outside, where time passes in whole milliseconds. -/
inductive Event where
  | intake (input : Input)
  | advance (millis : Nat)
  /-- Time passes, and inputs arrive at the very instant it passes to. -/
  | race (millis : Nat) (inputs : List Input)
  deriving DecidableEq

def Event.actions : Event → List Action
  | .intake input => [.take input]
  | .advance millis => [.elapse (nanosPerMilli * millis), .settle]
  | .race millis inputs => .elapse (nanosPerMilli * millis) :: inputs.map .take ++ [.settle]

def step (pool : Pool) (registry : Registry) (event : Event) : Step :=
  pool.perform registry event.actions

theorem perform_append (pool : Pool) (registry : Registry) (first second : List Action) :
    pool.perform registry (first ++ second) =
      let front := pool.perform registry first
      let back := pool.perform front.registry second
      ⟨back.registry, front.effects ++ back.effects, front.faults ++ back.faults⟩ := by
  induction first generalizing registry with
  | nil => simp [perform]
  | cons action rest ih => simp [perform, ih]

theorem perform_invariant (pool : Pool) (kept : Registry → Prop)
    (acts : ∀ registry action, kept registry → kept (pool.act registry action).registry)
    (registry : Registry) (actions : List Action) (held : kept registry) :
    kept (pool.perform registry actions).registry := by
  induction actions generalizing registry with
  | nil => exact held
  | cons action rest ih =>
      exact ih (pool.act registry action).registry (acts registry action held)

end Pool

def Counters.ofEffects (effects : List Effect) : Counters :=
  Counters.tickAll {} (effects.filterMap Effect.tick?)

end Reassembly
