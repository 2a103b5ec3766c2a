import Reassembly.Limits.Reader

/-!
# What a value says of limits

Here a value is not read in turn, but looked at as a whole: which of its parts stand for the size
and which for the expiry, whether these are well typed, and which numbers they say.  Where several
members of an object have one name, the last of them counts.
-/

set_option autoImplicit false

namespace Reassembly

/-- The two numbers of a duration as they were written, the nanoseconds not carried. -/
structure Span where
  secs : Nat
  nanos : Nat
  deriving DecidableEq, Repr

namespace Span

def totalNanos (span : Span) : Nat :=
  nanosPerSec * span.secs + span.nanos

def unset : Span := ⟨2, 0⟩

end Span

namespace Value

def member? (name : String) : List (String × Value) → Option Value
  | [] => none
  | (other, value) :: rest =>
      (member? name rest).or (if other = name then some value else none)

def size? : Value → Option Value
  | .object members => member? "max_message_size" members
  | .list items => items[0]?
  | _ => none

def expiry? : Value → Option Value
  | .object members => member? "message_expiry" members
  | .list items => items[1]?
  | _ => none

/-- A value in which limits can be looked for: an object, or a list without a third item. -/
def IsRecord : Value → Prop
  | .object _ => True
  | .list items => items.length ≤ 2
  | _ => False

def IsNumber (place : Expected) (value : Value) (number : Nat) : Prop :=
  value = .integer number ∧ number < place.bound

/-- What a value settles is what it says; where there is none, it is what was settled before. -/
def Settles {α : Type} (Says : Value → α → Prop) (before : Option α) : Option Value → α → Prop
  | none, final => before = some final
  | some value, final => Says value final

/-- A well typed duration: an object with members `secs` and `nanos` and no others, or a list of
the two. -/
inductive IsSpan : Value → Span → Prop
  | object {members : List (String × Value)} {secs nanos : Nat}
      (known : ∀ member ∈ members, member.1 = "secs" ∨ member.1 = "nanos")
      (saysSecs : Settles (IsNumber .seconds) none (member? "secs" members) secs)
      (saysNanos : Settles (IsNumber .nanoseconds) none (member? "nanos" members) nanos) :
      IsSpan (.object members) ⟨secs, nanos⟩
  | list {first second : Value} {secs nanos : Nat} (saysSecs : first.IsNumber .seconds secs)
      (saysNanos : second.IsNumber .nanoseconds nanos) :
      IsSpan (.list [first, second]) ⟨secs, nanos⟩

structure Configures (value : Value) (size : Nat) (expiry : Span) : Prop where
  record : value.IsRecord
  saysSize : Settles (IsNumber .size) (some 0) value.size? size
  saysExpiry : Settles IsSpan (some Span.unset) value.expiry? expiry

end Value

end Reassembly
