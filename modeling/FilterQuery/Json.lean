import FilterQuery.Binary64
import FilterQuery.Table

/-!
# JSON values

* `JsonNumber` : an integer of 64 bits, with or without sign, or a floating-point number;
* `Json` : a value. The members of an object that was read from a text are in increasing order of
  their names (`Json.IsOrdered`).
-/

set_option autoImplicit false

namespace FilterQuery

/-- A number. -/
inductive JsonNumber where
  | integer (n : Int)
  | decimal (x : Binary64)
deriving DecidableEq, Repr

/-- A JSON value. -/
inductive Json where
  | null
  | boolean (b : Bool)
  | number (n : JsonNumber)
  | string (s : String)
  | array (items : List Json)
  | object (members : List (String × Json))
deriving Repr, Inhabited

namespace Json

/-- The member of an object with the given name. -/
def get? : Json → String → Option Json
  | object members, name => members.lookup name
  | _, _ => none

mutual

/-- Whether every object inside has its members in increasing order of their names. -/
def IsOrdered : Json → Prop
  | array items => AllOrdered items
  | object members => Ascending members ∧ MembersOrdered members
  | _ => True

/-- Whether every item is ordered. -/
def AllOrdered : List Json → Prop
  | [] => True
  | v :: vs => v.IsOrdered ∧ AllOrdered vs

/-- Whether the value of every member is ordered. -/
def MembersOrdered : List (String × Json) → Prop
  | [] => True
  | (_, v) :: rest => v.IsOrdered ∧ MembersOrdered rest

end

end Json
end FilterQuery
