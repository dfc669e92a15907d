import FilterQuery.Proofs.Date.Reading

/-!
# Dates read back

* `Date.isDigit_padded`, `Date.digitsValue_padded` : digits with zeros before them;
* `Date.ofText?_text` : the text of a date is read as that date, also where the year has a sign.
-/

set_option autoImplicit false

namespace FilterQuery.Date

/-! ### Numbers with zeros before them -/

theorem isDigit_padded {width n : Nat} {c : Char} (h : c ∈ padded width n) : c.isDigit := by
  rcases List.mem_append.1 h with h | h
  · rw [(List.mem_replicate.1 h).2]
    decide
  · exact isDigit_toDigits h

theorem digitsValue_padded (width n : Nat) : digitsValue (padded width n) = n := by
  rw [padded, digitsValue_append, digitsValue_zeros, digitsValue_toDigits, Nat.mul_zero,
    Nat.zero_add]

theorem padded_ne_nil (width n : Nat) : padded width n ≠ [] := by
  rw [padded]
  simp [Nat.toDigits_ne_nil]

theorem length_padded {width n : Nat} (hw : 0 < width) (h : n < 10 ^ width) :
    (padded width n).length = width := by
  have := (Nat.length_toDigits_le_iff (by decide) hw).2 h
  rw [padded, List.length_append, List.length_replicate]
  omega

theorem writesNat_padded (width n : Nat) : WritesNat (padded width n) n :=
  ⟨padded_ne_nil width n, fun _ => isDigit_padded, digitsValue_padded width n⟩

/-! ### Dates -/

theorem mem_text {d : Date} {c : Char} (h : c ∈ d.text) : c.isDigit ∨ c = '-' ∨ c = '+' := by
  unfold text at h
  dsimp only at h
  simp only [List.mem_append, List.mem_cons] at h
  rcases h with ((h | h) | rfl | h) | rfl | h
  · split_ifs at h <;> simp_all
  · exact .inl (isDigit_padded h)
  · exact .inr (.inl rfl)
  · exact .inl (isDigit_padded h)
  · exact .inr (.inl rfl)
  · exact .inl (isDigit_padded h)

theorem writesPart_padded {n : Nat} (h : n < 100) : WritesPart (padded 2 n) n := by
  have hlen : (padded 2 n).length = 2 := length_padded (by decide) h
  exact @WritesPart.intro [] _ _ (List.forall_mem_nil _) (writesNat_padded 2 n) hlen.le

/-- A year needs a sign unless it is a number of four digits. -/
theorem writesYear_text (year : Int) :
    WritesYear ((if year < 0 then ['-'] else if 9999 < year then ['+'] else []) ++
      padded 4 year.natAbs) year := by
  have hwrites {sign : List Char} {negative : Bool} (hsign : WritesSign sign negative)
      (hneg : negative = decide (year < 0)) (hlen : sign = [] → (padded 4 year.natAbs).length ≤ 4) :
      WritesYear (sign ++ padded 4 year.natAbs) year := by
    have h := WritesYear.intro (List.forall_mem_nil _) hsign (writesNat_padded 4 year.natAbs) hlen
    rwa [hneg, Binary64.signed_natAbs] at h
  split
  · next hneg => exact hwrites .minus (decide_eq_true hneg).symm nofun
  · next hneg =>
    split
    · exact hwrites .plus (decide_eq_false hneg).symm nofun
    · have hlen : (padded 4 year.natAbs).length = 4 := length_padded (by decide) (by omega)
      exact hwrites .none (decide_eq_false hneg).symm fun _ => hlen.le

/-- The text of a date is read as that date. -/
theorem ofText?_text (d : Date) : ofText? d.text = .ok d := by
  obtain ⟨-, -, -, hmonth, -, hday⟩ := d.isDate
  have hdays := daysIn_le d.year d.month
  have htext : d.text = (if d.year < 0 then ['-'] else if 9999 < d.year then ['+'] else []) ++
      padded 4 d.year.natAbs ++ '-' :: (padded 2 d.month ++ '-' :: padded 2 d.day) := by
    rw [text, List.append_assoc]
    rfl
  rw [htext]
  exact ofText?_eq_ok_iff.2 (.intro (writesYear_text d.year) (writesPart_padded (by omega))
    (writesPart_padded (by omega)))

end FilterQuery.Date
