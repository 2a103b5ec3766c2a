/-!
# Binary floating point numbers

A finite binary64 number is a sign and `significand * 2 ^ exponent`.  Products
and quotients are taken exactly and then rounded once to the nearest number, a
tie going to the even significand; what is too large for every number is refused.
-/

set_option autoImplicit false

namespace Reassembly

/-- A finite number: the significand has at most 53 bits, the exponent is at
least -1074, and one of the two is at its bound. -/
structure Binary64 where
  negative : Bool
  significand : Nat
  exponent : Int
  deriving DecidableEq, Repr

namespace Binary64

def minExponent : Int := -1074

def maxExponent : Int := 971

/-- The least significand of 53 bits. -/
def leastFull : Nat := 4503599627370496

def zero (negative : Bool) : Binary64 := ⟨negative, 0, minExponent⟩

def nearestQuotient (num den : Nat) : Nat :=
  let quotient := num / den
  let rest := num % den
  if den < 2 * rest ∨ (2 * rest = den ∧ quotient % 2 = 1) then quotient + 1 else quotient

/-- `num / den` divided by a power of two, as a fraction. -/
def shifted (num den : Nat) (exponent : Int) : Nat × Nat :=
  (num * Nat.pow 2 (-exponent).toNat, den * Nat.pow 2 exponent.toNat)

/-- The least permitted exponent at which the integer part of `num / den` has at
most 53 bits. -/
def fittingExponent (num den : Nat) : Int :=
  let guess := (num.log2 : Int) - (den.log2 : Int) - 53
  let parts := shifted num den (guess + 1)
  max minExponent (if parts.1 / parts.2 < leastFull then guess else guess + 1)

def nearest? (negative : Bool) (num den : Nat) : Option Binary64 :=
  if num = 0 then some (zero negative)
  else
    let exponent := fittingExponent num den
    let parts := shifted num den exponent
    let rounded := nearestQuotient parts.1 parts.2
    let result : Binary64 :=
      if rounded = 2 * leastFull then ⟨negative, leastFull, exponent + 1⟩
      else ⟨negative, rounded, exponent⟩
    if result.exponent ≤ maxExponent then some result else none

def numerator (number : Binary64) : Nat :=
  number.significand * Nat.pow 2 number.exponent.toNat

def denominator (number : Binary64) : Nat :=
  Nat.pow 2 (-number.exponent).toNat

def mul? (first second : Binary64) : Option Binary64 :=
  nearest? (first.negative != second.negative) (first.numerator * second.numerator)
    (first.denominator * second.denominator)

def div? (first second : Binary64) : Option Binary64 :=
  nearest? (first.negative != second.negative) (first.numerator * second.denominator)
    (first.denominator * second.numerator)

def tenPower? (power : Nat) : Option Binary64 :=
  nearest? false (Nat.pow 10 power) 1

end Binary64

end Reassembly
