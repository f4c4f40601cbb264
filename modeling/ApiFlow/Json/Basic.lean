import ApiFlow.Number.Shortest
import ApiFlow.Table

/-!
# JSON values

Integers are unbounded and apart from doubles; the members of an object keep their order.

* `isTrue` is the truth of a value where a condition is asked for: null, false, zero and empty values are false.
-/

set_option autoImplicit false

namespace ApiFlow

inductive Json where
  | null
  | bool (b : Bool)
  | int (i : Int)
  | real (x : Double)
  | str (s : Text)
  | arr (items : List Json)
  | obj (members : List (Text × Json))

namespace Json

/-- The name of the kind of a value. -/
def kind : Json → Text
  | null => "null"
  | bool _ => "bool"
  | int _ => "number"
  | real _ => "number"
  | str _ => "string"
  | arr _ => "array"
  | obj _ => "object"

/-- The value of a member. -/
def member? (name : Text) : Json → Option Json
  | obj members => Table.get? members name
  | _ => none

end Json

end ApiFlow
