/-!
# 64-bit binary floating-point numbers

The finite numbers are whole multiples of the quantum `2 ^ -1074` with at most 53 significant
bits; arithmetic on them is exact arithmetic on the number of quanta.

* `Magnitude` : a finite number without its sign, in its only canonical form;
* `Magnitude.nearest p q` : the magnitude nearest to `p / q` quanta, ties to even;
* `Binary64` : the numbers, with signed zeros, infinities and the number that is none;
* `Binary64.ofInt`, `Binary64.ofDecimal` : the nearest number to an integer and to a decimal;
* `Binary64.order` : the order of the values; the number that is none has no place in it.
-/

set_option autoImplicit false

namespace FilterQuery

/-- The number of quanta in one. -/
def quantaOfOne : Nat := Nat.pow 2 1074

/-- A finite number without its sign: `significand * 2 ^ exponent` quanta. The significand has at
most 53 bits, and all of them unless the exponent is zero. -/
structure Magnitude where
  significand : Nat
  exponent : Nat
  significand_lt : significand < 0x20000000000000
  exponent_le : exponent ≤ 2045
  canonical : exponent = 0 ∨ 0x10000000000000 ≤ significand
deriving DecidableEq, Repr

/-- The quotient `p / q`, rounded to the nearest whole number, a half to the even one. -/
def roundHalfEven (p q : Nat) : Nat :=
  let floor := p / q
  match compare (2 * (p % q)) q with
  | .lt => floor
  | .eq => floor + floor % 2
  | .gt => floor + 1

namespace Magnitude

/-- The number of quanta. -/
def quanta (m : Magnitude) : Nat := m.significand * Nat.pow 2 m.exponent

/-- No quantum at all. -/
def zero : Magnitude := ⟨0, 0, by decide, by decide, .inl rfl⟩

/-- The magnitude with this significand and exponent, if they are in range and canonical. -/
def ofParts? (significand exponent : Nat) : Option Magnitude :=
  if h : significand < 0x20000000000000 ∧ exponent ≤ 2045 ∧
      (exponent = 0 ∨ 0x10000000000000 ≤ significand) then
    some ⟨significand, exponent, h.1, h.2.1, h.2.2⟩
  else none

/-- The magnitude nearest to `p / q` quanta; none if that is beyond the largest one. -/
def nearest (p q : Nat) : Option Magnitude :=
  let exponent := Nat.log2 (p / q) - 52
  let significand := roundHalfEven p (q * Nat.pow 2 exponent)
  if significand = 0x20000000000000 then ofParts? 0x10000000000000 (exponent + 1)
  else ofParts? significand exponent

/-- The magnitude nearest to `digits * 10 ^ exponent`. Beyond `10 ^ 400` and below `10 ^ -400` the
powers of ten are not worked out: there every number is too large, and none is above zero. -/
def ofDecimal (digits : Nat) (exponent : Int) : Option Magnitude :=
  if digits = 0 then some zero
  else if 400 < exponent then none
  else if exponent + digits.log2 < -400 then some zero
  else nearest (digits * Nat.pow 10 exponent.toNat * quantaOfOne) (Nat.pow 10 (-exponent).toNat)

end Magnitude

/-- A 64-bit binary floating-point number. -/
inductive Binary64 where
  | nan
  | infinite (negative : Bool)
  | finite (negative : Bool) (magnitude : Magnitude)
deriving DecidableEq, Repr

namespace Binary64

/-- The number with this sign and magnitude, infinite if the magnitude is too large to have. -/
def ofMagnitude (negative : Bool) : Option Magnitude → Binary64
  | some m => finite negative m
  | none => infinite negative

/-- The number nearest to `n`. -/
def ofInt (n : Int) : Binary64 := ofMagnitude (n < 0) (Magnitude.nearest (n.natAbs * quantaOfOne) 1)

/-- The number nearest to `digits * 10 ^ exponent` with the given sign. -/
def ofDecimal (negative : Bool) (digits : Nat) (exponent : Int) : Binary64 :=
  ofMagnitude negative (Magnitude.ofDecimal digits exponent)

/-- Whether the number is finite. -/
def isFinite : Binary64 → Bool
  | finite .. => true
  | _ => false

/-- The given number with a minus sign if `negative`. -/
def signed (negative : Bool) (n : Nat) : Int := if negative then -n else n

/-- The number of quanta of a finite number; an infinity lies beyond all of them. -/
def rank : Binary64 → Option Int
  | nan => none
  | infinite negative => some (signed negative (Nat.pow 2 2098))
  | finite negative m => some (signed negative m.quanta)

/-- The order of two numbers by value; zeros of either sign are equal. -/
def order (x y : Binary64) : Option Ordering := do
  return compare (← x.rank) (← y.rank)

end Binary64
end FilterQuery
