import FilterQuery.Operator

/-!
# Types of attribute values

* `ValueType` : the five types, `ValueType.name` and `ValueType.ofName?`;
* `Operator.supports` : which operators apply to attributes of a type.
-/

set_option autoImplicit false

namespace FilterQuery

/-- The type of an attribute's values. -/
inductive ValueType where
  | string | integer | decimal | date | boolean
deriving DecidableEq, Repr

namespace ValueType

/-- Every type, in the order in which messages list them. -/
def all : List ValueType := [string, integer, decimal, date, boolean]

/-- The name of a type. -/
def name : ValueType → String
  | string => "string"
  | integer => "integer"
  | decimal => "decimal"
  | date => "date"
  | boolean => "boolean"

/-- The type of the given name. -/
def ofName? (name : String) : Option ValueType := all.find? (·.name = name)

/-- Whether the values have an order that queries can ask for. -/
def isOrderable : ValueType → Bool
  | boolean => false
  | _ => true

end ValueType

/-- Whether an operator applies to attributes of a type. -/
def Operator.supports (op : Operator) (type : ValueType) : Bool :=
  if op.isOrdering then type.isOrderable
  else if op.isPattern then type = .string
  else true

end FilterQuery
