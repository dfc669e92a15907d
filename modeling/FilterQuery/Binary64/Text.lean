import FilterQuery.Binary64

/-!
# Decimal texts of floating-point numbers

A finite number is written with the fewest digits that read back as it.

* `Magnitude.shortest tie m` : those digits, and the power of ten they count;
* `Binary64.plainText` : the positional text, without exponent or needless point;
* `Binary64.jsonText` : the text of a JSON number, with an exponent when the point would stand far
  from the digits.
-/

set_option autoImplicit false

namespace FilterQuery

/-- Which of two decimals at the same distance is taken. -/
inductive Tie where
  | up
  | even
deriving DecidableEq, Repr

namespace Magnitude

/-- Whether `digits * 10 ^ exponent` reads back as `m`. -/
def isReadFrom (m : Magnitude) (digits : Nat) (exponent : Int) : Bool :=
  0 < digits && ofDecimal digits exponent = some m

/-- Of the multiples of `10 ^ exponent` just below and above `m`, the one that reads back as `m`;
if both do, the nearer. -/
def neighbour? (tie : Tie) (m : Magnitude) (exponent : Int) : Option Nat :=
  let above := m.quanta * Nat.pow 10 (-exponent).toNat
  let unit := quantaOfOne * Nat.pow 10 exponent.toNat
  let low := above / unit
  match m.isReadFrom low exponent, m.isReadFrom (low + 1) exponent with
  | false, false => none
  | true, false => some low
  | false, true => some (low + 1)
  | true, true =>
    match compare (2 * (above % unit)) unit with
    | .lt => some low
    | .gt => some (low + 1)
    | .eq => match tie with
      | .up => some (low + 1)
      | .even => some (low + low % 2)

/-- The powers of ten to try, from the coarsest to that of the quantum's last digit. -/
def exponents : List Int := (List.range 1383).map fun (i : Nat) => 308 - (i : Int)

/-- The fewest digits that read back as `m`, with the power of ten that they count. -/
def shortest (tie : Tie) (m : Magnitude) : Nat × Int :=
  (exponents.findSome? fun e => (m.neighbour? tie e).map (·, e)).getD
    (m.quanta * Nat.pow 5 1074, -1074)

end Magnitude

/-- The text of `digits * 10 ^ exponent` without an exponent: zeros fill up to the units, and a
point stands before the digits of the fraction. -/
def positional (digits : Nat) (exponent : Int) : List Char :=
  let text := Nat.toDigits 10 digits
  let places := (-exponent).toNat
  if places = 0 then text ++ List.replicate exponent.toNat '0'
  else
    let text := List.replicate (places + 1 - text.length) '0' ++ text
    text.take (text.length - places) ++ '.' :: text.drop (text.length - places)

/-- The text of an exponent, with its sign. -/
def exponentText (e : Int) : List Char :=
  (if e < 0 then '-' else '+') :: Nat.toDigits 10 e.natAbs

/-- The text of `digits * 10 ^ exponent` with one digit before the point. -/
def scientific (digits : Nat) (exponent : Int) : List Char :=
  let text := Nat.toDigits 10 digits
  let point := if text.length = 1 then [] else ['.']
  let exponent := exponent + (text.length - 1 : Nat)
  text.take 1 ++ point ++ text.drop 1 ++ 'e' :: exponentText exponent

namespace Binary64

/-- A minus sign where there is one. -/
def signText (negative : Bool) : List Char := if negative then ['-'] else []

/-- The shortest text in positional form; of two shortest decimals at the same distance the larger
one. -/
def plainText : Binary64 → List Char
  | nan => ['N', 'a', 'N']
  | infinite negative => signText negative ++ ['i', 'n', 'f']
  | finite negative m => signText negative ++
    if m.significand = 0 then ['0']
    else
      let (digits, exponent) := m.shortest .up
      positional digits exponent

/-- The text of a JSON number: the shortest digits, of two at the same distance the even one; with
a point always when there is no exponent, and with an exponent from `10 ^ 16` on and below
`10 ^ -5`. A number that is not finite has no such text and is written as null. -/
def jsonText : Binary64 → List Char
  | finite negative m => signText negative ++
    if m.significand = 0 then ['0', '.', '0']
    else
      let (digits, exponent) := m.shortest .even
      let point := (Nat.toDigits 10 digits).length + exponent
      if -5 < point && point ≤ 16 then
        positional digits exponent ++ if 0 ≤ exponent then ['.', '0'] else []
      else scientific digits exponent
  | _ => ['n', 'u', 'l', 'l']

end Binary64
end FilterQuery
