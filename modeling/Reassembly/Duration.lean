/-!
# Durations

A duration is a number of whole seconds below 2^64 and a number of nanoseconds
below a second.  Nanoseconds that make up whole seconds are carried when a
duration is built, so two durations compare like the pairs of their parts.
-/

set_option autoImplicit false

namespace Reassembly

def nanosPerSec : Nat := 1000000000

def secsBound : Nat := 18446744073709551616

structure Duration where
  secs : Nat
  nanos : Nat
  secs_lt : secs < secsBound
  nanos_lt : nanos < nanosPerSec
  deriving DecidableEq

namespace Duration

def ofParts? (secs nanos : Nat) : Option Duration :=
  if h : secs + nanos / nanosPerSec < secsBound then
    some ⟨secs + nanos / nanosPerSec, nanos % nanosPerSec, h, Nat.mod_lt _ (by decide)⟩
  else none

def ofMillis (millis : Nat) (bound : millis / 1000 < secsBound) : Duration :=
  ⟨millis / 1000, millis % 1000 * 1000000, bound, by unfold nanosPerSec; omega⟩

def totalNanos (duration : Duration) : Nat :=
  -- with the numeral on the right, comparing two such terms would count it down
  nanosPerSec * duration.secs + duration.nanos

def le (first second : Duration) : Bool :=
  decide (first.secs < second.secs) ||
    (decide (first.secs = second.secs) && decide (first.nanos ≤ second.nanos))

def max (first second : Duration) : Duration :=
  if first.le second then second else first

theorem le_iff_totalNanos (first second : Duration) :
    first.le second = true ↔ first.totalNanos ≤ second.totalNanos := by
  have firstBound := first.nanos_lt
  have secondBound := second.nanos_lt
  simp only [le, totalNanos, nanosPerSec, Bool.or_eq_true, Bool.and_eq_true,
    decide_eq_true_eq] at *
  omega

theorem max_max (first second : Duration) : (first.max second).max second = first.max second := by
  by_cases below : first.le second = true
  · simp [max, below]
  · simp [max, below]

/-! ## Text -/

/-- A fraction of `width` digits behind its point, without trailing zeros. -/
def fractionChars (width part : Nat) : List Char :=
  let digits := Nat.toDigits 10 part
  let padded := List.replicate (width - digits.length) '0' ++ digits
  match (padded.reverse.dropWhile (· = '0')).reverse with
  | [] => []
  | kept => '.' :: kept

def unitText (whole width part : Nat) (unit : String) : String :=
  String.ofList (Nat.toDigits 10 whole ++ fractionChars width part) ++ unit

/-- The duration in the largest of four units whose integer part is not zero. -/
def text (duration : Duration) : String :=
  let nanos := duration.nanos
  if 0 < duration.secs then unitText duration.secs 9 nanos "s"
  else if 1000000 ≤ nanos then unitText (nanos / 1000000) 6 (nanos % 1000000) "ms"
  else if 1000 ≤ nanos then unitText (nanos / 1000) 3 (nanos % 1000) "µs"
  else unitText nanos 0 0 "ns"

end Duration

end Reassembly
