import Reassembly.Duration
import Reassembly.Message

/-!
# The registry of messages in progress

A registry files each message in progress under its session key, together with
the deadline at which its watcher gives up waiting.  It also holds the clock.  Times
are counted in nanoseconds.  Looking a key up after an operation gives what the
operation's name says, and other keys are untouched.
-/

set_option autoImplicit false

namespace Reassembly

/-- A message in progress; a flow without a deadline has no watcher. -/
structure Flow where
  message : Message
  deadline : Option Nat
  deriving DecidableEq

def nanosPerMilli : Nat := 1000000

/-- The first time that the clock cannot name: 2^63 seconds. -/
def clockHorizon : Nat := 9223372036854775808 * nanosPerSec

def deadlineAfter? (clock : Nat) (expiry : Duration) : Option Nat :=
  let time := clock + expiry.totalNanos
  if time < clockHorizon then some time else none

/-- The clock reading at which a deadline is noticed: timers go off on whole
milliseconds and never early. -/
def dueTime (deadline : Nat) : Nat :=
  nanosPerMilli * ((deadline + (nanosPerMilli - 1)) / nanosPerMilli)

theorem deadline_le_dueTime (deadline : Nat) : deadline ≤ dueTime deadline := by
  unfold dueTime nanosPerMilli
  omega

theorem dueTime_lt (deadline : Nat) : dueTime deadline < deadline + nanosPerMilli := by
  unfold dueTime nanosPerMilli
  omega

def Flow.dueBefore (limit : Nat) (flow : Flow) : Bool :=
  flow.deadline.any fun deadline => decide (dueTime deadline < limit)

theorem Flow.dueBefore_iff {limit : Nat} {flow : Flow} :
    flow.dueBefore limit = true ↔
      ∃ deadline, flow.deadline = some deadline ∧ dueTime deadline < limit := by
  simp only [dueBefore, Option.any_eq_true, decide_eq_true_eq]

structure Registry where
  clock : Nat
  flows : List (SessionKey × Flow)
  deriving DecidableEq

namespace Registry

def empty : Registry := ⟨0, []⟩

def lookup (key : SessionKey) : List (SessionKey × Flow) → Option Flow
  | [] => none
  | (other, flow) :: rest => if other = key then some flow else lookup key rest

def find? (registry : Registry) (key : SessionKey) : Option Flow :=
  lookup key registry.flows

def contains (registry : Registry) (key : SessionKey) : Bool :=
  (registry.find? key).isSome

def size (registry : Registry) : Nat :=
  registry.flows.length

def erase (registry : Registry) (key : SessionKey) : Registry :=
  { registry with flows := registry.flows.filter fun entry => decide (entry.1 ≠ key) }

/-- Files a flow under a key in place of what was filed there. -/
def insert (registry : Registry) (key : SessionKey) (flow : Flow) : Registry :=
  { registry with flows := (registry.erase key).flows ++ [(key, flow)] }

def keys (registry : Registry) : List SessionKey :=
  registry.flows.map Prod.fst

def Unambiguous (registry : Registry) : Prop :=
  registry.keys.Nodup

/-! ## Looking up after an operation -/

theorem lookup_append (key : SessionKey) (first second : List (SessionKey × Flow)) :
    lookup key (first ++ second) = (lookup key first).or (lookup key second) := by
  induction first with
  | nil => rfl
  | cons entry rest ih =>
      obtain ⟨other, flow⟩ := entry
      by_cases same : other = key <;> simp [lookup, same, ih]

theorem lookup_filter_ne_self (key : SessionKey) (flows : List (SessionKey × Flow)) :
    lookup key (flows.filter fun entry => decide (entry.1 ≠ key)) = none := by
  induction flows with
  | nil => rfl
  | cons entry rest ih =>
      obtain ⟨other, flow⟩ := entry
      by_cases same : other = key
      · simpa [List.filter_cons, same] using ih
      · simpa [List.filter_cons, same, lookup] using ih

theorem lookup_filter_ne_other {key other : SessionKey} (distinct : other ≠ key)
    (flows : List (SessionKey × Flow)) :
    lookup other (flows.filter fun entry => decide (entry.1 ≠ key)) = lookup other flows := by
  induction flows with
  | nil => rfl
  | cons entry rest ih =>
      obtain ⟨name, flow⟩ := entry
      by_cases same : name = key
      · have differs : name ≠ other := fun equal => distinct (equal ▸ same)
        simpa [List.filter_cons, same, lookup, Ne.symm distinct] using ih
      · simp only [List.filter_cons, same, ne_eq, not_false_eq_true, decide_true, if_true, lookup]
        rw [← ih]

@[simp] theorem find?_erase_self (registry : Registry) (key : SessionKey) :
    (registry.erase key).find? key = none :=
  lookup_filter_ne_self key registry.flows

theorem find?_erase_other (registry : Registry) {key other : SessionKey}
    (distinct : other ≠ key) : (registry.erase key).find? other = registry.find? other :=
  lookup_filter_ne_other distinct registry.flows

@[simp] theorem find?_insert_self (registry : Registry) (key : SessionKey) (flow : Flow) :
    (registry.insert key flow).find? key = some flow := by
  have cleared := registry.find?_erase_self key
  simp only [find?] at cleared
  simp [find?, insert, lookup_append, cleared, lookup]

theorem find?_insert_other (registry : Registry) {key other : SessionKey}
    (distinct : other ≠ key) (flow : Flow) :
    (registry.insert key flow).find? other = registry.find? other := by
  have kept := registry.find?_erase_other distinct
  simp only [find?] at kept
  simp [find?, insert, lookup_append, kept, lookup, Ne.symm distinct]

@[simp] theorem erase_clock (registry : Registry) (key : SessionKey) :
    (registry.erase key).clock = registry.clock := rfl

@[simp] theorem insert_clock (registry : Registry) (key : SessionKey) (flow : Flow) :
    (registry.insert key flow).clock = registry.clock := rfl

end Registry

end Reassembly
