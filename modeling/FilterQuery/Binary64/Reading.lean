import FilterQuery.Binary64

/-!
# Floating-point numbers from text

* `digitsValue` : the number that a run of digits writes;
* `Binary64.ofFixed?` : a sign, digits and at most one point, the form of a query's decimals;
* `Binary64.ofText?` : that form with an optional exponent, and the words for the numbers that are
  not finite.
-/

set_option autoImplicit false

namespace FilterQuery

/-- The number that the digits write. -/
def digitsValue (digits : List Char) : Nat := Nat.ofDigitChars 10 digits 0

/-- Splits off a leading sign; the first part says whether it is a minus. -/
def splitSign : List Char → Bool × List Char
  | '-' :: cs => (true, cs)
  | '+' :: cs => (false, cs)
  | cs => (false, cs)

namespace Binary64

/-- Digits before and after a point, of which there must be one at least, and what follows. -/
def fixed? (cs : List Char) : Option (Nat × Int × List Char) :=
  let whole := cs.takeWhile Char.isDigit
  let (fraction, rest) := match cs.dropWhile Char.isDigit with
    | '.' :: r => (r.takeWhile Char.isDigit, r.dropWhile Char.isDigit)
    | r => ([], r)
  if whole = [] ∧ fraction = [] then none
  else some (digitsValue (whole ++ fraction), -(fraction.length : Int), rest)

/-- The number nearest to a sign, digits and at most one point. -/
def ofFixed? (text : List Char) : Option Binary64 :=
  let (negative, cs) := splitSign text
  match fixed? cs with
  | some (digits, exponent, []) => some (ofDecimal negative digits exponent)
  | _ => none

/-- An exponent with its mark, or nothing. -/
def exponent? : List Char → Option Int
  | [] => some 0
  | c :: cs =>
    let (negative, digits) := splitSign cs
    if (c = 'e' ∨ c = 'E') ∧ digits ≠ [] ∧ digits.all Char.isDigit then
      some (if negative then -(digitsValue digits : Int) else digitsValue digits)
    else none

/-- The number that a text names: decimal digits with an optional sign, point and exponent, or one
of the words for the infinities and for the number that is none, in any case. -/
def ofText? (text : List Char) : Option Binary64 :=
  let (negative, cs) := splitSign text
  match String.ofList (cs.map Char.toLower) with
  | "nan" => some nan
  | "inf" | "infinity" => some (infinite negative)
  | _ => do
    let (digits, shift, rest) ← fixed? cs
    return ofDecimal negative digits (shift + (← exponent? rest))

end Binary64
end FilterQuery
