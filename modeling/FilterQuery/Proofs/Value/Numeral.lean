import FilterQuery.Proofs.Binary64.Rounding
import FilterQuery.Proofs.Date.Reading
import FilterQuery.Proofs.Unicode.Ascii
import FilterQuery.Proofs.Unicode.Lowercase
import FilterQuery.Proofs.Value.Literal

/-!
# Numerals

Integers and finite decimals have texts of one form, so that what such a text is read as can be said for
both of them.

* `IsNumeral` : a sign and digits with at most one point among them, and the number nearest to what they
  write;
* `isNumeral_integerText`, `isNumeral_plainText` : the texts of integers and of finite decimals are
  numerals;
* `readDecimal_integerText` : the text of an integer is read as the decimal that it is rounded to;
* `IsNumeral.coerce_date`, `IsNumeral.coerce_boolean` : no numeral is a date or a truth value.
-/

set_option autoImplicit false

namespace FilterQuery

/-- The text is a sign and digits with at most one point among them, and the number is the one nearest to
what it writes. -/
inductive IsNumeral : List Char → Binary64 → Prop
  | signed {cs : List Char} {digits : Nat} {exponent : Int} (negative : Bool) :
      IsFixed cs digits exponent →
      IsNumeral (Binary64.signText negative ++ cs) (.ofDecimal negative digits exponent)

/-! ### Integers -/

/-- A whole number is rounded alike as a number of quanta and as digits. -/
theorem Magnitude.ofDecimal_whole (n : Nat) : ofDecimal n 0 = nearest (n * quantaOfOne) 1 := by
  by_cases h : n = 0
  · rw [h, ofDecimal, if_pos rfl, Nat.zero_mul]
    decide
  · have hpow : n * Nat.pow 10 (0 : Int).toNat = n := Nat.mul_one n
    rw [ofDecimal, if_neg h, if_neg (by decide), if_neg (by omega), hpow]
    rfl

theorem isNumeral_integerText (n : Int64) : IsNumeral (Value.integerText n) (.ofInt n.toInt) := by
  have hdigits : IsFixed (Nat.toDigits 10 n.toInt.natAbs) n.toInt.natAbs 0 := by
    have h := IsFixed.digits (Nat.toDigits_ne_nil (b := 10) (n := n.toInt.natAbs))
      (fun c => isDigit_toDigits)
    rwa [digitsValue_toDigits] at h
  have h := IsNumeral.signed (n.toInt < 0) hdigits
  rwa [← integerText_eq, Binary64.ofDecimal, Magnitude.ofDecimal_whole] at h

theorem isFinite_ofInt (n : Int64) : (Binary64.ofInt n.toInt).isFinite := by
  obtain ⟨negative, r, hr, -⟩ := Binary64.exists_ofInt (natAbs_toInt_le n)
  rw [hr]
  rfl

/-! ### Decimals -/

theorem isNumeral_plainText {x : Binary64} (h : x.isFinite) : IsNumeral x.plainText x := by
  cases x with
  | nan => cases h
  | infinite negative => cases h
  | finite negative m =>
    obtain ⟨cs, digits, exponent, htext, hcs, hm⟩ := Binary64.exists_isFixed negative m
    have hnumeral := IsNumeral.signed negative hcs
    rwa [← htext, Binary64.ofDecimal, hm] at hnumeral

/-! ### What numerals are read as -/

namespace IsNumeral

variable {cs : List Char} {x : Binary64}

theorem mem (h : IsNumeral cs x) : ∀ c ∈ cs, c.isDigit ∨ c = '-' ∨ c = '.' := by
  obtain ⟨negative, hcs⟩ := h
  intro c hc
  rcases List.mem_append.1 hc with hc | hc
  · cases negative with
    | true => exact .inr (.inl (List.mem_singleton.1 hc))
    | false => cases hc
  · exact (hcs.mem c hc).imp id .inr

theorem isUpper (h : IsNumeral cs x) : ∀ c ∈ cs, c.isUpper = false := by
  intro c hc
  rcases h.mem c hc with hd | rfl | rfl
  · exact isUpper_of_isDigit hd
  · decide
  · decide

/-- The only hyphen is a sign. -/
theorem hyphen_not_mem_tail (h : IsNumeral cs x) : '-' ∉ cs.tail := by
  cases h with
  | @signed cs _ _ negative hcs =>
    have htail : (Binary64.signText negative ++ cs).tail ⊆ cs := by
      cases negative with
      | true => exact List.Subset.refl cs
      | false => exact (List.tail_suffix cs).subset
    intro hc
    rcases hcs.mem _ (htail hc) with hd | hpoint
    · exact absurd hd (by decide)
    · exact absurd hpoint (by decide)

theorem readDecimal (h : IsNumeral cs x) (hx : x.isFinite) : FilterQuery.readDecimal cs = .ok x := by
  obtain ⟨negative, hcs⟩ := h
  rw [FilterQuery.readDecimal, Binary64.ofFixed?_of_isFixed negative hcs]
  dsimp only
  rw [if_pos hx]

theorem coerce_decimal (h : IsNumeral cs x) (hx : x.isFinite) :
    coerce (String.ofList cs) .decimal = .ok (.decimal x) := by
  rw [coerce, String.toList_ofList, h.readDecimal hx]
  rfl

theorem coerce_date (h : IsNumeral cs x) : (coerce (String.ofList cs) .date).toOption = none := by
  rw [coerce, String.toList_ofList]
  cases hd : Date.ofText? cs with
  | error e => rfl
  | ok d => exact absurd (Date.hyphen_mem_of_ofText? hd) h.hyphen_not_mem_tail

theorem coerce_boolean (h : IsNumeral cs x) :
    (coerce (String.ofList cs) .boolean).toOption = none := by
  -- a numeral has no capitals, so it is not read in another case
  have hlower : cs.map Char.toLower = cs := by
    rw [List.map_congr_left, List.map_id]
    intro c hc
    exact toLower_of_isUpper (h.isUpper c hc)
  have hword {word : List Char} {c : Char} (hc : c ∈ word)
      (hnot : ¬ (c.isDigit ∨ c = '-' ∨ c = '.')) : cs ≠ word := by
    rintro rfl
    exact hnot (h.mem c hc)
  have htrue : cs ≠ "true".toList := hword (c := 't') (by decide) (by decide)
  have hfalse : cs ≠ "false".toList := hword (c := 'f') (by decide) (by decide)
  rw [coerce, String.toList_ofList, readBoolean, hlower, if_neg htrue, if_neg hfalse]
  rfl

end IsNumeral

/-- The decimal digits of an integer are read as the decimal that the integer is rounded to. -/
theorem readDecimal_integerText (n : Int64) :
    readDecimal (Value.integerText n) = .ok (.ofInt n.toInt) :=
  (isNumeral_integerText n).readDecimal (isFinite_ofInt n)

end FilterQuery
