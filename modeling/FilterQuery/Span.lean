/-!
# Places in a text

Places are counted in bytes of UTF-8.

* `byteLength cs` : how many bytes the characters `cs` take;
* `Span` : a stretch of a text, by its first byte and its length.
-/

set_option autoImplicit false

namespace FilterQuery

/-- The number of bytes of `cs` in UTF-8. -/
def byteLength : List Char → Nat
  | [] => 0
  | c :: cs => c.utf8Size + byteLength cs

@[simp] theorem byteLength_nil : byteLength [] = 0 := rfl

@[simp] theorem byteLength_cons (c : Char) (cs : List Char) :
    byteLength (c :: cs) = c.utf8Size + byteLength cs := rfl

@[simp] theorem byteLength_append (as bs : List Char) :
    byteLength (as ++ bs) = byteLength as + byteLength bs := by
  induction as with
  | nil => simp
  | cons a as ih => simp [ih, Nat.add_assoc]

theorem byteLength_pos {cs : List Char} (h : cs ≠ []) : 0 < byteLength cs := by
  cases cs with
  | nil => exact absurd rfl h
  | cons c cs => have := c.utf8Size_pos; simp; omega

/-- A stretch of a text. -/
structure Span where
  /-- The first byte. -/
  offset : Nat
  /-- How many bytes. -/
  length : Nat
deriving DecidableEq, Repr, Inhabited

namespace Span

/-- The byte after the last one. -/
def stop (s : Span) : Nat := s.offset + s.length

/-- The stretch from byte `first` up to byte `stop`. -/
def upTo (first stop : Nat) : Span := ⟨first, stop - first⟩

end Span
end FilterQuery
