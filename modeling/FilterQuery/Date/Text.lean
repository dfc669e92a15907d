import FilterQuery.Binary64.Reading
import FilterQuery.Date
import FilterQuery.Unicode.Blank

/-!
# Dates in text

A date is written as year, month and day of the month, joined by `-`.

* `Date.text` : four digits or more for the year, with a sign outside 0 to 9999, two for the rest;
* `Date.ofText?` : the date that a text writes. Blanks may stand before each number; the year has
  at most four digits unless it has a sign, the month and the day one or two digits and none;
* `DateFault` : the first thing that is wrong with a text.
-/

set_option autoImplicit false

namespace FilterQuery

/-- Why a text is not a date. -/
inductive DateFault where
  /-- Something else stands where a digit or a `-` should. -/
  | invalid
  /-- A number is beyond its range, or there is no such day. -/
  | outOfRange
  /-- The text ends too early. -/
  | tooShort
  /-- Something follows the day. -/
  | tooLong
deriving DecidableEq, Repr

/-- The wording of a fault. -/
def DateFault.message : DateFault → String
  | invalid => "input contains invalid characters"
  | outOfRange => "input is out of range"
  | tooShort => "premature end of input"
  | tooLong => "trailing input"

namespace Date

/-- The digits of `n`, with zeros before them to make up `width`. -/
def padded (width n : Nat) : List Char :=
  let digits := Nat.toDigits 10 n
  List.replicate (width - digits.length) '0' ++ digits

/-- The text of a date. -/
def text (d : Date) : List Char :=
  let sign := if d.year < 0 then ['-'] else if 9999 < d.year then ['+'] else []
  sign ++ padded 4 d.year.natAbs ++ '-' :: padded 2 d.month ++ '-' :: padded 2 d.day

/-- A number of one to `width` digits, or of any length, and what follows it. -/
def number (width : Option Nat) (cs : List Char) : Except DateFault (Nat × List Char) :=
  match cs with
  | [] => .error .tooShort
  | c :: _ =>
    if ! c.isDigit then .error .invalid
    else
      let run := cs.takeWhile Char.isDigit
      let digits := match width with
        | some n => run.take n
        | none => run
      let value := digitsValue digits
      if value ≤ Int64.maxValue.toInt then .ok (value, cs.drop digits.length)
      else .error .outOfRange

/-- The `-` between two numbers. -/
def hyphen : List Char → Except DateFault (List Char)
  | '-' :: cs => .ok cs
  | [] => .error .tooShort
  | _ => .error .invalid

/-- A number after optional blanks. -/
def part (width : Nat) (cs : List Char) : Except DateFault (Nat × List Char) :=
  number (some width) (cs.dropWhile Unicode.isBlank)

/-- A year after optional blanks. -/
def yearPart (cs : List Char) : Except DateFault (Int × List Char) := do
  let (year, rest) ← match cs.dropWhile Unicode.isBlank with
    | '-' :: r => do
      let (n, rest) ← number none r
      pure (-(n : Int), rest)
    | '+' :: r => do
      let (n, rest) ← number none r
      pure ((n : Int), rest)
    | r => do
      let (n, rest) ← number (some 4) r
      pure ((n : Int), rest)
  if Int32.minValue.toInt ≤ year ∧ year ≤ Int32.maxValue.toInt then return (year, rest)
  else .error .outOfRange

/-- A number between 1 and `most` after optional blanks. -/
def rangedPart (most : Nat) (cs : List Char) : Except DateFault (Nat × List Char) := do
  let (n, rest) ← part 2 cs
  if 1 ≤ n ∧ n ≤ most then return (n, rest) else .error .outOfRange

/-- The date that a text writes. -/
def ofText? (cs : List Char) : Except DateFault Date := do
  let (year, cs) ← yearPart cs
  let cs ← hyphen cs
  let (month, cs) ← rangedPart 12 cs
  let cs ← hyphen cs
  let (day, cs) ← rangedPart 31 cs
  if cs ≠ [] then .error .tooLong
  else match ofParts? year month day with
    | some d => .ok d
    | none => .error .outOfRange

end Date
end FilterQuery
