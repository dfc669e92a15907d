import FilterQuery.Binary64.Reading

/-!
# Decimals rounded step by step

A decimal can be turned into a floating-point number at once, or fast: as many leading digits as fit
into 64 bits are rounded to a number, which is then multiplied or divided by powers of ten, with a
rounding at each step. The fast result may miss the nearest number by a few units in the last place.

* `Magnitude.scale` : a number of 64 bits times a power of ten, step by step;
* `Rounding` : the two ways, and `Rounding.round`, the number that a decimal becomes.
-/

set_option autoImplicit false

namespace FilterQuery
namespace Magnitude

/-- The magnitude nearest to the product of two. -/
def mul (a b : Magnitude) : Option Magnitude := nearest (a.quanta * b.quanta) quantaOfOne

/-- The magnitude nearest to the quotient of two. -/
def div (a b : Magnitude) : Option Magnitude := nearest (a.quanta * quantaOfOne) b.quanta

/-- The largest exponent of a power of ten that is a number. -/
def maxPower : Nat := 308

/-- Divides by `10 ^ k`, by no more than the largest power of ten at a time. -/
def scaleDown (m : Magnitude) (k : Nat) : Option Magnitude :=
  if k ≤ maxPower then do m.div (← ofDecimal 1 k)
  else if m.significand = 0 then some m
  else do scaleDown (← m.div (← ofDecimal 1 maxPower)) (k - maxPower)
termination_by k
decreasing_by
  simp only [maxPower] at *
  omega

/-- Multiplies by `10 ^ k`; none if that or the result is too large. -/
def scaleUp (m : Magnitude) (k : Nat) : Option Magnitude :=
  if m.significand = 0 then some m
  else if k ≤ maxPower then do m.mul (← ofDecimal 1 k)
  else none

/-- The number `n` times `10 ^ exponent`, rounded at each step. -/
def scale (n : Nat) (exponent : Int) : Option Magnitude := do
  let m ← nearest (n * quantaOfOne) 1
  if 0 ≤ exponent then m.scaleUp exponent.toNat else m.scaleDown (-exponent).toNat

end Magnitude

/-- Writes digits behind those of `n`, as long as the number has 64 bits. The second part is how
many digits were written. -/
def appendDigits (n : Nat) : List Char → Nat × Nat
  | [] => (n, 0)
  | c :: cs =>
    let next := 10 * n + (c.toNat - '0'.toNat)
    if next < UInt64.size then
      let (m, count) := appendDigits next cs
      (m, count + 1)
    else (n, 0)

/-- How a decimal becomes a floating-point number. -/
inductive Rounding where
  /-- The nearest number. -/
  | nearest
  /-- The leading digits, scaled step by step. -/
  | stepwise
deriving DecidableEq, Repr

/-- The number that the decimal with these digits before and after the point, times `10 ^ exponent`,
becomes. -/
def Rounding.round (negative : Bool) (whole fraction : List Char) (exponent : Int) :
    Rounding → Binary64
  | nearest => .ofDecimal negative (digitsValue (whole ++ fraction)) (exponent - fraction.length)
  | stepwise =>
    let (n, kept) := appendDigits 0 whole
    let (n, appended) := appendDigits n fraction
    .ofMagnitude negative (Magnitude.scale n (exponent + (whole.length - kept : Nat) - appended))

end FilterQuery
