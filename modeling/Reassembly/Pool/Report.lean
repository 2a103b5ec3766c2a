import Reassembly.Pool.Run

/-!
# Reports

A report gathers what one event let the outside see.  Effects of tasks that run
beside each other have no order of their own, so a report of an event that can
start several is sorted: deliveries by time and endpoints, texts by their level
and themselves.  Errors in the log come last in every report.
-/

set_option autoImplicit false

namespace Reassembly

structure Receipt where
  message : Message
  /-- When it was dispatched, in whole milliseconds. -/
  time : Nat
  deriving DecidableEq

structure Report where
  active : Nat
  counters : Counters
  delivered : List Receipt
  diagnostics : List (Severity × String)
  entries : List (LogLevel × String)
  deriving DecidableEq

namespace Report

def lexicographic (first second : Ordering) : Bool :=
  (first.then second).isLE

def receiptOrder (first second : Receipt) : Bool :=
  lexicographic (compare first.time second.time)
    ((compare first.message.stats.src.text second.message.stats.src.text).then
      (compare first.message.stats.dst.text second.message.stats.dst.text))

def diagnosticOrder (first second : Severity × String) : Bool :=
  lexicographic (compare first.1.level second.1.level) (compare first.2 second.2)

def entryOrder (first second : LogLevel × String) : Bool :=
  lexicographic (compare first.1.name second.1.name) (compare first.2 second.2)

def heard (hooks : Hooks) (effects : List Effect) : List (Severity × String) :=
  (effects.filterMap Effect.diagnostic?).flatMap fun diagnostic =>
    hooks.hears diagnostic.severity diagnostic.text

/-- What was delivered and the handler did not fail on. -/
def kept (handler : Handler) (effects : List Effect) : List Receipt :=
  ((effects.filterMap Effect.delivery?).filter fun delivery =>
    (handler delivery.message).isNone).map fun delivery =>
      ⟨delivery.message, delivery.time / nanosPerMilli⟩

def ofStep (pool : Pool) (before : Counters) (event : Pool.Event) (step : Step) : Report :=
  let delivered := kept pool.handler step.effects
  let diagnostics := heard pool.hooks step.effects
  let entries := step.effects.filterMap Effect.entry?
  let errors := entries.filter fun entry => decide (entry.1 = .error)
  let others := entries.filter fun entry => decide (entry.1 ≠ .error)
  let counters := before.tickAll (step.effects.filterMap Effect.tick?)
  match event with
  | .intake _ =>
      ⟨step.registry.size, counters, delivered, diagnostics,
        others ++ errors.mergeSort entryOrder⟩
  | _ =>
      ⟨step.registry.size, counters, delivered.mergeSort receiptOrder,
        diagnostics.mergeSort diagnosticOrder,
        others.mergeSort entryOrder ++ errors.mergeSort entryOrder⟩

end Report

end Reassembly
