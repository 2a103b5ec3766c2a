import Reassembly.Binary64.Literal
import Reassembly.Binary64.Text
import Reassembly.Text.Quoted

/-!
# Configuration values

The tree of values that a configuration is read from.  Numbers are whole or
binary floating point; an object is a list of named members.
-/

set_option autoImplicit false

namespace Reassembly

inductive Value where
  | null
  | boolean (flag : Bool)
  | integer (number : Int)
  | real (number : Binary64)
  | string (text : String)
  | list (items : List Value)
  | object (members : List (String × Value))
  deriving Inhabited

namespace Value

def ofLiteral? (literal : Literal) : Option Value :=
  match literal.integer? with
  | some number => some (.integer number)
  | none => literal.real?.map .real

/-- What a value is called where another kind of value was expected. -/
def description : Value → String
  | .null => "null"
  | .boolean flag => s!"boolean `{flag}`"
  | .integer number => s!"integer `{number}`"
  | .real number => s!"floating point `{number.text}`"
  | .string text => s!"string {Text.quoted text}"
  | .list _ => "sequence"
  | .object _ => "map"

end Value

end Reassembly
