import Reassembly.Limits
import Reassembly.Value

/-!
# Reading limits from a value

Limits are an object with optional members, or a list of the same values in a
fixed order whose tail may be missing.  A duration is an object with exactly the
members `secs` and `nanos`, or a list of the two.  Of several members with one name
the last counts and the others are not looked at.  Members are visited in the order
of their names, and the first fault is reported.
-/

set_option autoImplicit false

namespace Reassembly

inductive Expected where
  | limits
  | size
  | duration
  | seconds
  | nanoseconds
  deriving DecidableEq, Repr

def Expected.name : Expected → String
  | .limits => "struct PoolConfig"
  | .size => "usize"
  | .duration => "struct Duration"
  | .seconds => "u64"
  | .nanoseconds => "u32"

inductive ReadFault where
  | wrongType (found : Value) (expected : Expected)
  | outOfRange (number : Int) (expected : Expected)
  | missingField (name : String)
  | unknownField (name : String)
  | tooShort (length : Nat) (expected : Expected)
  | tooLong (length : Nat)
  | durationOverflow

def ReadFault.message : ReadFault → String
  | .wrongType found expected =>
      s!"invalid type: {found.description}, expected {expected.name}"
  | .outOfRange number expected =>
      s!"invalid value: {(Value.integer number).description}, expected {expected.name}"
  | .missingField name => s!"missing field `{name}`"
  | .unknownField name => s!"unknown field `{name}`, expected `secs` or `nanos`"
  | .tooShort length expected => s!"invalid length {length}, expected {expected.name}"
  | .tooLong length => s!"invalid length {length}, expected fewer elements in array"
  | .durationOverflow => "overflow deserializing Duration"

/-- The first natural number that a place cannot hold. -/
def Expected.bound : Expected → Nat
  | .nanoseconds => 4294967296
  | _ => secsBound

def Value.natural (expected : Expected) : Value → Except ReadFault Nat
  | .integer number =>
      if 0 ≤ number ∧ number < expected.bound then .ok number.toNat
      else .error (.outOfRange number expected)
  | found => .error (.wrongType found expected)

/-- Members without those that a later one of their name replaces. -/
def Value.latest : List (String × Value) → List (String × Value)
  | [] => []
  | member :: rest =>
      if rest.any fun other => decide (other.1 = member.1) then latest rest
      else member :: latest rest

/-- The members that count, in the order of their names. -/
def Value.byName (members : List (String × Value)) : List (String × Value) :=
  (latest members).mergeSort fun first second => decide (first.1 ≤ second.1)

namespace Duration

structure Parts where
  secs : Option Nat
  nanos : Option Nat

/-- Reads the members of a duration in turn, of which no two have one name. -/
def readMembers : Parts → List (String × Value) → Except ReadFault Parts
  | parts, [] => .ok parts
  | parts, (name, value) :: rest =>
      if name = "secs" then
        match value.natural .seconds with
        | .error fault => .error fault
        | .ok secs => readMembers { parts with secs := some secs } rest
      else if name = "nanos" then
        match value.natural .nanoseconds with
        | .error fault => .error fault
        | .ok nanos => readMembers { parts with nanos := some nanos } rest
      else .error (.unknownField name)

def build (secs nanos : Nat) : Except ReadFault Duration :=
  match ofParts? secs nanos with
  | some duration => .ok duration
  | none => .error .durationOverflow

def ofMembers (members : List (String × Value)) : Except ReadFault Duration :=
  match readMembers ⟨none, none⟩ (Value.byName members) with
  | .error fault => .error fault
  | .ok ⟨none, _⟩ => .error (.missingField "secs")
  | .ok ⟨_, none⟩ => .error (.missingField "nanos")
  | .ok ⟨some secs, some nanos⟩ => build secs nanos

def ofItems : List Value → Except ReadFault Duration
  | [] => .error (.tooShort 0 .duration)
  | first :: rest =>
      match first.natural .seconds, rest with
      | .error fault, _ => .error fault
      | .ok _, [] => .error (.tooShort 1 .duration)
      | .ok secs, second :: more =>
          match second.natural .nanoseconds with
          | .error fault => .error fault
          | .ok nanos =>
              match build secs nanos with
              | .error fault => .error fault
              | .ok duration =>
                  if more = [] then .ok duration
                  else .error (.tooLong (more.length + 2))

def ofValue : Value → Except ReadFault Duration
  | .object members => ofMembers members
  | .list items => ofItems items
  | found => .error (.wrongType found .duration)

end Duration

namespace Limits

/-- Reads the members of limits in turn, of which no two have one name; other members are passed
over. -/
def readMembers : Limits → List (String × Value) → Except ReadFault Limits
  | limits, [] => .ok limits
  | limits, (name, value) :: rest =>
      if name = "max_message_size" then
        match value.natural .size with
        | .error fault => .error fault
        | .ok size => readMembers { limits with maxSize := size } rest
      else if name = "message_expiry" then
        match Duration.ofValue value with
        | .error fault => .error fault
        | .ok expiry => readMembers { limits with expiry := expiry } rest
      else readMembers limits rest

def ofItems : List Value → Except ReadFault Limits
  | [] => .ok unset
  | first :: rest =>
      match first.natural .size, rest with
      | .error fault, _ => .error fault
      | .ok size, [] => .ok { unset with maxSize := size }
      | .ok size, second :: more =>
          match Duration.ofValue second with
          | .error fault => .error fault
          | .ok expiry =>
              if more = [] then .ok ⟨size, expiry⟩
              else .error (.tooLong (more.length + 2))

def ofValue : Value → Except ReadFault Limits
  | .object members => readMembers unset (Value.byName members)
  | .list items => ofItems items
  | found => .error (.wrongType found .limits)

end Limits

end Reassembly
