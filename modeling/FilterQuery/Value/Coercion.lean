import FilterQuery.Binary64.Reading
import FilterQuery.Value

/-!
# Reading literals as values of a type

* `CoercionError` : why a literal is no value of a type;
* `readInteger` : an optional sign and digits, within 64 bits;
* `readDecimal` : an optional sign and digits with at most one point, with a finite nearest number;
* `readBoolean` : `true` or `false` in any case;
* `coerce` : the value of a type that a literal writes.
-/

set_option autoImplicit false

namespace FilterQuery

/-- Why a literal is not an integer. -/
inductive IntegerFault where
  | empty | invalidDigit | tooLarge | tooSmall
deriving DecidableEq, Repr

/-- The wording of a fault. -/
def IntegerFault.message : IntegerFault → String
  | empty => "cannot parse integer from empty string"
  | invalidDigit => "invalid digit found in string"
  | tooLarge => "number too large to fit in target type"
  | tooSmall => "number too small to fit in target type"

/-- Why a literal is not a value of the type it should have. -/
inductive CoercionError where
  | integer (fault : IntegerFault)
  | decimal
  | date (fault : DateFault)
  | boolean
deriving DecidableEq, Repr

/-- The wording of an error. -/
def CoercionError.message : CoercionError → String
  | integer fault => "not a base-10 integer (" ++ fault.message ++ ")"
  | decimal => "not a decimal number (digits with at most one '.')"
  | date fault => "not a calendar date in YYYY-MM-DD form (" ++ fault.message ++ ")"
  | boolean => "expected 'true' or 'false'"

/-- Reads digits into a number, up to the first that makes it larger than `limit` or is no digit. -/
def readDigits (limit : Nat) (overflow : IntegerFault) : Nat → List Char → Except IntegerFault Nat
  | n, [] => .ok n
  | n, c :: cs =>
    if c.isDigit then
      let n := 10 * n + (c.toNat - '0'.toNat)
      if n ≤ limit then readDigits limit overflow n cs else .error overflow
    else .error .invalidDigit

/-- The largest integer of 64 bits with sign. The least one is further from zero by one. -/
def maxInteger : Nat := 9223372036854775807

/-- The integer that a literal writes. -/
def readInteger (cs : List Char) : Except IntegerFault Int64 :=
  match cs with
  | [] => .error .empty
  | [c] => if c.isDigit then .ok (Int64.ofNat (c.toNat - '0'.toNat)) else .error .invalidDigit
  | '-' :: digits =>
    (readDigits (maxInteger + 1) .tooSmall 0 digits).map fun n => Int64.ofInt (-(n : Int))
  | '+' :: digits => (readDigits maxInteger .tooLarge 0 digits).map Int64.ofNat
  | digits => (readDigits maxInteger .tooLarge 0 digits).map Int64.ofNat

/-- The decimal number that a literal writes. -/
def readDecimal (cs : List Char) : Except CoercionError Binary64 :=
  match Binary64.ofFixed? cs with
  | some x => if x.isFinite then .ok x else .error .decimal
  | none => .error .decimal

/-- The truth value that a literal writes. -/
def readBoolean (cs : List Char) : Except CoercionError Bool :=
  if cs.map Char.toLower = "true".toList then .ok true
  else if cs.map Char.toLower = "false".toList then .ok false
  else .error .boolean

/-- The value of a type that a literal writes. A string is the literal itself. -/
def coerce (literal : String) : ValueType → Except CoercionError Value
  | .string => .ok (.string literal)
  | .integer => (readInteger literal.toList).mapError .integer |>.map .integer
  | .decimal => (readDecimal literal.toList).map .decimal
  | .date => (Date.ofText? literal.toList).mapError .date |>.map .date
  | .boolean => (readBoolean literal.toList).map .boolean

end FilterQuery
