import FilterQuery.Binary64.Text
import FilterQuery.Date.Text
import FilterQuery.Quoting
import FilterQuery.ValueType

/-!
# Values

* `Value` : a value of one of the types, or none;
* `Value.agrees` : equality, in which a number that is none differs from itself and zeros of either
  sign are the same;
* `Value.text` : the text of a value in a query.
-/

set_option autoImplicit false

namespace FilterQuery

/-- A value of an attribute. -/
inductive Value where
  | string (s : String)
  | integer (n : Int64)
  | decimal (x : Binary64)
  | date (d : Date)
  | boolean (b : Bool)
  | null
deriving DecidableEq, Repr

namespace Value

/-- The type of a value. -/
def type? : Value → Option ValueType
  | string _ => some .string
  | integer _ => some .integer
  | decimal _ => some .decimal
  | date _ => some .date
  | boolean _ => some .boolean
  | null => none

/-- Whether there is no value. -/
def isNull (v : Value) : Bool := v = null

/-- The characters of a string. -/
def string? : Value → Option String
  | string s => some s
  | _ => none

/-- Whether two values are equal; decimals are compared by value. -/
def agrees : Value → Value → Bool
  | decimal x, decimal y => x.order y = some .eq
  | v, w => v = w

/-- The text of an integer. -/
def integerText (n : Int64) : List Char := (toString n.toInt).toList

/-- The text of a truth value. -/
def booleanText (b : Bool) : List Char := (if b then "true" else "false").toList

/-- The text of a value, with quotes around a string that needs them. -/
def text : Value → List Char
  | string s => quoteIfNeeded s.toList
  | integer n => integerText n
  | decimal x => x.plainText
  | date d => d.text
  | boolean b => booleanText b
  | null => "null".toList

end Value
end FilterQuery
