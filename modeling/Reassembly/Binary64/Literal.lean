import Reassembly.Binary64

/-!
# Number literals

A literal is read digit by digit into a significand of 64 bits.  Digits of the
whole part that do not fit any more count as powers of ten, those of the fraction
are dropped.  A literal without fraction and exponent whose digits all fit is a
whole number, if words of 64 bits can hold it; any other literal is a binary64
number, which is reached in several roundings: the significand, a power of ten,
and their product or quotient.
-/

set_option autoImplicit false

namespace Reassembly

structure Literal where
  negative : Bool
  whole : List Nat
  fraction : Option (List Nat)
  exponent : Option Int
  deriving DecidableEq, Repr

namespace Literal

def significandBound : Nat := 18446744073709551616

/-- A significand with the leading digits that fit behind it, and the digits left over. -/
def gather (significand : Nat) : List Nat → Nat × List Nat
  | [] => (significand, [])
  | digit :: rest =>
      if 10 * significand + digit < significandBound then
        gather (10 * significand + digit) rest
      else (significand, digit :: rest)

/-- The largest power of ten that a single operation scales by. -/
def scaleStep : Nat := 308

def shrink? (size : Binary64) : Nat → Option Binary64
  | 0 => some size
  | count + 1 =>
      if size.significand = 0 then some size
      else
        ((Binary64.tenPower? scaleStep).bind size.div?).bind fun smaller =>
          shrink? smaller count

/-- A size times a power of ten, by one product, or by quotients of which all but the
last are by the largest step. -/
def scale? (size : Binary64) (power : Int) : Option Binary64 :=
  if 0 ≤ power then
    if size.significand = 0 then some size
    else if power ≤ scaleStep then (Binary64.tenPower? power.toNat).bind size.mul?
    else none
  else
    let count := ((-power).toNat - 1) / scaleStep
    (shrink? size count).bind fun smaller =>
      (Binary64.tenPower? ((-power).toNat - scaleStep * count)).bind smaller.div?

def parts (literal : Literal) : Nat × Int :=
  let whole := gather 0 literal.whole
  let fraction := literal.fraction.getD []
  let both := gather whole.1 fraction
  (both.1, whole.2.length - (fraction.length - both.2.length : Nat) + literal.exponent.getD 0)

def real? (literal : Literal) : Option Binary64 :=
  ((Binary64.nearest? false literal.parts.1 1).bind fun size =>
    scale? size literal.parts.2).map fun size => { size with negative := literal.negative }

/-- The whole number of a literal: below 2^64, or negative and at least -2^63. -/
def integer? (literal : Literal) : Option Int :=
  let digits := gather 0 literal.whole
  if literal.fraction.isSome ∨ literal.exponent.isSome ∨ digits.2 ≠ [] then none
  else if ¬literal.negative then some digits.1
  else if 0 < digits.1 ∧ digits.1 ≤ 9223372036854775808 then some (-(digits.1 : Int))
  else none

end Literal

end Reassembly
