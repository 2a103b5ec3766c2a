import Reassembly.Binary64

/-!
# The text of a binary floating point number

A number is written with the fewest digits that read back as the same number, of
those the nearest, a tie going to the even last digit.  Where the point stands
decides between positional notation, which has a digit on either side of the
point, and a power of ten, which is written with its sign.
-/

set_option autoImplicit false

namespace Reassembly

namespace Binary64

/-- Whether `digits * 10 ^ power` reads back as a number: it lies between the
midpoints to the neighbours, which belong to the number if its significand is
even.  The neighbour below a power of two is only half as far away. -/
def readsBack (number : Binary64) (digits : Nat) (power : Int) : Bool :=
  let below :=
    if number.significand = leastFull ∧ minExponent < number.exponent then 1 else 2
  let unit := number.exponent - 2
  let point := digits * Nat.pow 10 power.toNat * Nat.pow 2 (-unit).toNat
  let scale := Nat.pow 10 (-power).toNat * Nat.pow 2 unit.toNat
  let low := (4 * number.significand - below) * scale
  let high := (4 * number.significand + 2) * scale
  if number.significand % 2 = 0 then decide (low ≤ point) && decide (point ≤ high)
  else decide (low < point) && decide (point < high)

/-- The point of the grid `10 ^ power` that is nearest to a number, among its two
neighbours there that read back. -/
def gridPoint? (number : Binary64) (power : Int) : Option Nat :=
  let num := number.numerator * Nat.pow 10 (-power).toNat
  let den := number.denominator * Nat.pow 10 power.toNat
  let floor := num / den
  let floorFits := number.readsBack floor power
  let ceilFits := number.readsBack (floor + 1) power
  if floorFits && ceilFits then some (nearestQuotient num den)
  else if floorFits then some floor
  else if ceilFits then some (floor + 1)
  else none

def shortestFrom (number : Binary64) : Nat → Int → Nat × Int
  | 0, power => (0, power)
  | fuel + 1, power =>
      match number.gridPoint? power with
      | some digits => (digits, power)
      | none => shortestFrom number fuel (power - 1)

/-- The digits and the power of ten of the shortest decimal that reads back: the
grids from the largest number down to the smallest are tried. -/
def shortest (number : Binary64) : Nat × Int :=
  if number.significand = 0 then (0, 0) else shortestFrom number 640 309

/-- Positional notation is kept where the point stands at most four zeros before the
first digit and at most sixteen places behind it. -/
def isPositional (point : Int) : Bool :=
  decide (-5 < point) && decide (point ≤ 16)

def positional (digits : Nat) (power : Int) : List Char :=
  if 0 ≤ power then
    Nat.toDigits 10 (digits * Nat.pow 10 power.toNat) ++ ['.', '0']
  else
    let places := (-power).toNat
    let whole := digits / Nat.pow 10 places
    let fraction := Nat.toDigits 10 (digits % Nat.pow 10 places)
    Nat.toDigits 10 whole ++ '.' :: List.replicate (places - fraction.length) '0' ++ fraction

def scientific (digits : List Char) (power : Int) : List Char :=
  let mantissa :=
    match digits with
    | first :: second :: rest => first :: '.' :: second :: rest
    | short => short
  let sign := if 0 ≤ power then '+' else '-'
  mantissa ++ 'e' :: sign :: Nat.toDigits 10 power.natAbs

def chars (number : Binary64) : List Char :=
  let decimal := number.shortest
  let digits := Nat.toDigits 10 decimal.1
  let point := digits.length + decimal.2
  (if number.negative then ['-'] else []) ++
    (if isPositional point then positional decimal.1 decimal.2
    else scientific digits (point - 1))

def text (number : Binary64) : String :=
  String.ofList number.chars

end Binary64

end Reassembly
