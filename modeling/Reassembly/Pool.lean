import Reassembly.Limits
import Reassembly.Rule

/-!
# Pools and their builders

A pool is set up once: limits, hooks and a handler.  A builder gathers the limits
as they are set and the hooks; the pool that it builds has the limits in force.
-/

set_option autoImplicit false

namespace Reassembly

structure Pool where
  limits : Limits
  hooks : Hooks
  handler : Handler
  /-- The default and the floor have been applied to the limits. -/
  inForce : limits.effective = limits

structure Builder where
  limits : Limits
  hooks : Hooks

namespace Builder

def new : Builder := ⟨Limits.unset, Hooks.unset⟩

inductive Choice where
  | limits (limits : Limits)
  | maxSize (size : Nat)
  | expiry (expiry : Duration)
  | start (detector : StartDetector)
  | finish (detector : EndDetector)
  | debugger (debugger : Debugger)

/-- A later choice replaces an earlier one of its kind. -/
def choose (builder : Builder) : Choice → Builder
  | .limits limits => { builder with limits := limits }
  | .maxSize size => { builder with limits := { builder.limits with maxSize := size } }
  | .expiry expiry => { builder with limits := { builder.limits with expiry := expiry } }
  | .start detector => { builder with hooks := { builder.hooks with start := some detector } }
  | .finish detector => { builder with hooks := { builder.hooks with finish := some detector } }
  | .debugger debugger =>
      { builder with hooks := { builder.hooks with debugger := some debugger } }

def chooseAll (builder : Builder) (choices : List Choice) : Builder :=
  choices.foldl choose builder

def build (builder : Builder) (handler : Handler) : Pool :=
  ⟨builder.limits.effective, builder.hooks, handler, builder.limits.effective_effective⟩

def text (builder : Builder) : String :=
  s!"MessagePoolBuilder \x7b config: {builder.limits.text}, hooks: {builder.hooks.text} \x7d"

end Builder

theorem Pool.maxSize_pos (pool : Pool) : 0 < pool.limits.maxSize := by
  rw [← pool.inForce]
  exact pool.limits.effectiveMaxSize_pos

def Pool.text (pool : Pool) : String :=
  s!"MessagePool \x7b config: {pool.limits.text}, hooks: {pool.hooks.text}, .. \x7d"

end Reassembly
