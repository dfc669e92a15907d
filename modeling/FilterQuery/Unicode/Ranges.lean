/-!
# Tables of characters

* `inRanges table c` : whether `c` lies in one of the ranges of `table`;
* `CaseRange` : equally spaced characters that a case mapping moves by the same distance;
* `shiftBy table c` : `c`, moved as the table says.
-/

set_option autoImplicit false

namespace FilterQuery.Unicode

/-- Whether `c` lies in one of the ranges, ends included. -/
def inRanges (table : List (Nat × Nat)) (c : Char) : Bool :=
  table.any fun (first, last) => first ≤ c.toNat && c.toNat ≤ last

/-- The characters `first`, `first + step`, …, `last`, each mapped `shift` places further. -/
structure CaseRange where
  first : Nat
  last : Nat
  step : Nat
  shift : Int
deriving DecidableEq, Repr

/-- Whether the range holds the character with code `n`. -/
def CaseRange.covers (r : CaseRange) (n : Nat) : Bool :=
  r.first ≤ n && n ≤ r.last && (n - r.first) % r.step = 0

/-- The character that `table` maps `c` to, or `c` itself. -/
def shiftBy (table : List CaseRange) (c : Char) : Char :=
  match table.find? (·.covers c.toNat) with
  | some r => Char.ofNat (c.toNat + r.shift).toNat
  | none => c

end FilterQuery.Unicode
