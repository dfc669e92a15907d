import FilterQuery.AttributePath
import FilterQuery.Formula
import FilterQuery.LikePattern
import FilterQuery.Unicode.Lowercase
import FilterQuery.Value.Order

/-!
# Predicates

A predicate is a formula of conditions on attributes, with values of the attributes' types.

* `Condition` : an operator with its values on the attribute at the end of a path;
* `Condition.holdsFor` : whether a value of the attribute satisfies a condition. Null satisfies only
  the test for null, and a value that cannot be compared satisfies nothing;
* `Condition.text`, `Predicate.text` : the text as a query;
* `Predicate.agrees` : equality.
-/

set_option autoImplicit false

namespace FilterQuery

/-- A test of the attribute at the end of a path. -/
structure Condition where
  path : AttributePath
  operator : Operator
  /-- The values to compare with: none for a null check, the text of the pattern for a pattern. -/
  values : List Value
  type : ValueType
  /-- Whether strings are compared in lowercase. -/
  foldCase : Bool
  pattern : Option LikePattern
deriving DecidableEq, Repr

namespace Condition

/-- A string in lowercase. -/
def lowercased (s : String) : String := String.ofList (Unicode.lowercase s.toList)

/-- How a value of the attribute stands to one of the condition's values. -/
def order (c : Condition) (actual expected : Value) : Option Ordering :=
  match actual with
  | .string s => (Value.string (if c.foldCase then lowercased s else s)).order expected
  | actual => actual.order expected

/-- Whether the pattern matches a value, or the text of one that is no string. -/
def isLike (c : Condition) (actual : Value) : Bool :=
  match c.pattern, actual with
  | none, _ => false
  | some p, .string s => p.accepts s.toList
  | some p, actual => p.accepts actual.text

/-- Whether two values differ and can be compared. -/
def isUnequal (order : Option Ordering) : Bool := order = some .lt || order = some .gt

/-- Whether a value lies between the two of the condition, ends included; none if it cannot be
compared with both. -/
def isBetween? (c : Condition) (actual : Value) : Option Bool :=
  match c.values with
  | [low, high] => do
    let low ← c.order actual low
    let high ← c.order actual high
    return low ≠ .lt && high ≠ .gt
  | _ => none

/-- Whether a value that is not null satisfies a condition. -/
def holdsForValue (c : Condition) (actual : Value) : Bool :=
  let first := c.values.head?.bind (c.order actual)
  match c.operator with
  | .equal => first = some .eq
  | .notEqual => isUnequal first
  | .greater => first = some .gt
  | .greaterEqual => first = some .gt || first = some .eq
  | .less => first = some .lt
  | .lessEqual => first = some .lt || first = some .eq
  | .oneOf => c.values.any fun v => c.order actual v = some .eq
  | .noneOf => c.values.all fun v => isUnequal (c.order actual v)
  | .like => c.isLike actual
  | .notLike => ! c.isLike actual
  | .between => c.isBetween? actual = some true
  | .notBetween => c.isBetween? actual = some false
  | .isNull => false
  | .notNull => true

/-- Whether a value satisfies a condition. -/
def holdsFor (c : Condition) (actual : Value) : Bool :=
  if actual.isNull then c.operator = .isNull else c.holdsForValue actual

/-- The text of a condition as a query; the argument of a null check is a placeholder. -/
def text (c : Condition) : List Char :=
  c.path.text ++ c.operator.symbol.toList ++
    if c.operator.isNullCheck then "true".toList
    else match c.pattern with
      | some p => quoteIfNeeded p.source.toList
      | none =>
        match c.operator.arity, c.values with
        | .single, [v] => v.text
        | _, vs => '(' :: [','].intercalate (vs.map Value.text) ++ [')']

/-- Whether two lists of values are equal. -/
def valuesAgree : List Value → List Value → Bool
  | [], [] => true
  | v :: vs, w :: ws => v.agrees w && valuesAgree vs ws
  | _, _ => false

/-- Whether two conditions are equal. -/
def agrees (c d : Condition) : Bool :=
  c.path = d.path && c.operator = d.operator && valuesAgree c.values d.values && c.type = d.type &&
    c.foldCase = d.foldCase && c.pattern = d.pattern

end Condition

/-- A formula of conditions. -/
abbrev Predicate := Formula Condition

namespace Predicate

/-- The text of a predicate as a query. -/
def text (p : Predicate) : String := String.ofList (p.render Condition.text)

/-- Whether two predicates are equal. -/
def agrees (p q : Predicate) : Bool := Formula.agrees Condition.agrees p q

end Predicate
end FilterQuery
