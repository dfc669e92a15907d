import FilterQuery.Proofs.Binary64.Plain
import FilterQuery.Proofs.Date.Text
import FilterQuery.Proofs.Value.Integer

/-!
# Values and the literals that write them

* `Value.literal` : the literal that a value is read from, and `Value.text_eq`, that the text of a
  value is its literal, with quotes where it needs them;
* `Value.mem_literal` : the characters of the literals of values other than strings;
* `coerce_literal` : the literal of a value is read as that value, if it is of the type and finite.
-/

set_option autoImplicit false

namespace FilterQuery

/-! ### Characters that need no quotes -/

theorem isPlain_of_isDigit {c : Char} (h : c.isDigit) : isPlain c := by
  have hmem (ds : List Char) (hds : ds.all fun d => !d.isDigit) : c ∉ ds := by
    intro hc
    have := List.all_eq_true.1 hds c hc
    rw [h] at this
    cases this
  have hreserved : isReserved c = false := decide_eq_false (hmem _ (by decide))
  have hblank : isBlank c = false := decide_eq_false (hmem _ (by decide))
  have hescape : c ∉ ['\x0c', '\\'] := hmem _ (by decide)
  rw [List.mem_cons, List.mem_singleton, not_or] at hescape
  simp [isPlain, isWordChar, hreserved, hblank, hescape]

theorem quoteIfNeeded_of_plain {cs : List Char} (hne : cs ≠ []) (h : ∀ c ∈ cs, isPlain c) :
    quoteIfNeeded cs = cs := if_pos ⟨hne, List.all_eq_true.2 h⟩

namespace Value

/-- The literal that writes a value. -/
def literal : Value → List Char
  | string s => s.toList
  | integer n => integerText n
  | decimal x => x.plainText
  | date d => d.text
  | boolean b => booleanText b
  | null => "null".toList

/-- The characters besides digits in the literals of numbers, dates, truth values and null. -/
def literalMarks : List Char := "-+.NaNinftruefalsenull".toList

section
variable {v : Value}

/-- Only the literals of strings have other characters. -/
theorem mem_literal (hv : ∀ s, v ≠ string s) {c : Char} (hc : c ∈ v.literal) :
    c.isDigit ∨ c ∈ literalMarks := by
  have hword (w : Value) (h : w.literal ⊆ literalMarks) (hw : v = w) : c ∈ literalMarks := by
    rw [hw] at hc
    exact h hc
  cases v with
  | string s => exact absurd rfl (hv s)
  | integer n =>
    change c ∈ integerText n at hc
    by_cases h : 0 ≤ n.toInt
    · rw [integerText_of_nonneg h] at hc
      exact .inl (isDigit_toDigits hc)
    · rw [integerText_of_neg (Int.lt_of_not_ge h)] at hc
      rcases List.mem_cons.1 hc with rfl | hc
      · exact .inr (by decide)
      · exact .inl (isDigit_toDigits hc)
  | decimal x =>
    cases x with
    | nan => exact .inr (hword _ (by decide) rfl)
    | infinite negative => exact .inr (hword _ (by cases negative <;> decide) rfl)
    | finite negative m =>
      obtain ⟨cs, digits, exponent, htext, hcs, -⟩ := Binary64.exists_isFixed negative m
      have hsign : Binary64.signText negative ⊆ literalMarks := by cases negative <;> decide
      change c ∈ Binary64.plainText (.finite negative m) at hc
      rw [htext] at hc
      rcases List.mem_append.1 hc with hc | hc
      · exact .inr (hsign hc)
      · rcases hcs.mem c hc with hc | rfl
        · exact .inl hc
        · exact .inr (by decide)
  | date d =>
    rcases Date.mem_text hc with hc | rfl | rfl
    · exact .inl hc
    · exact .inr (by decide)
    · exact .inr (by decide)
  | boolean b => exact .inr (hword _ (by cases b <;> decide) rfl)
  | null => exact .inr (hword _ (by decide) rfl)

theorem literal_ne_nil (hv : ∀ s, v ≠ string s) : v.literal ≠ [] := by
  cases v with
  | string s => exact absurd rfl (hv s)
  | integer n =>
    change integerText n ≠ []
    by_cases h : 0 ≤ n.toInt
    · rw [integerText_of_nonneg h]
      exact Nat.toDigits_ne_nil
    · rw [integerText_of_neg (Int.lt_of_not_ge h)]
      exact List.cons_ne_nil _ _
  | decimal x =>
    cases x with
    | nan => decide
    | infinite negative => cases negative <;> decide
    | finite negative m =>
      obtain ⟨cs, digits, exponent, htext, hcs, -⟩ := Binary64.exists_isFixed negative m
      obtain ⟨c, rest, rfl, -⟩ := hcs.head
      change Binary64.plainText (.finite negative m) ≠ []
      rw [htext]
      exact List.append_ne_nil_of_right_ne_nil _ (List.cons_ne_nil c rest)
  | date d => simp [literal, Date.text]
  | boolean b => cases b <;> decide
  | null => decide

/-- The text of a value that is no string is its literal. -/
theorem text_of_ne_string (hv : ∀ s, v ≠ string s) : v.text = v.literal := by
  cases v with
  | string s => exact absurd rfl (hv s)
  | integer | decimal | date | boolean | null => rfl

/-- The text of a value is its literal, with quotes where it needs them. -/
theorem text_eq (v : Value) : v.text = quoteIfNeeded v.literal := by
  by_cases hv : ∃ s, v = string s
  · obtain ⟨s, rfl⟩ := hv
    rfl
  · have hv := not_exists.1 hv
    rw [text_of_ne_string hv, quoteIfNeeded_of_plain (literal_ne_nil hv)]
    intro c hc
    rcases mem_literal hv hc with hd | hmark
    · exact isPlain_of_isDigit hd
    · exact List.all_eq_true.1 (show literalMarks.all isPlain by decide) c hmark

/-- The text of a value that is no string is in ASCII. -/
theorem toNat_lt_of_mem_text (hv : ∀ s, v ≠ string s) {c : Char} (hc : c ∈ v.text) :
    c.toNat < 128 := by
  rw [text_of_ne_string hv] at hc
  rcases mem_literal hv hc with hd | hmark
  · exact Nat.lt_of_le_of_lt (Char.isDigit_iff_toNat.1 hd).2 (by decide)
  · exact of_decide_eq_true
      (List.all_eq_true.1 (show literalMarks.all (·.toNat < 128) by decide) c hmark)

end

end Value

/-! ### Literals are read -/

theorem readDecimal_plainText {x : Binary64} (h : x.isFinite) : readDecimal x.plainText = .ok x := by
  cases x with
  | nan => cases h
  | infinite negative => cases h
  | finite negative m =>
    rw [readDecimal, Binary64.ofFixed?_plainText]
    rfl

theorem readBoolean_booleanText (b : Bool) : readBoolean (Value.booleanText b) = .ok b := by
  cases b <;> rfl

/-- The literal of a value of a type is read as that value. -/
theorem coerce_literal {v : Value} {type : ValueType} (ht : v.type? = some type)
    (hf : ∀ x, v = .decimal x → x.isFinite) : coerce (String.ofList v.literal) type = .ok v := by
  cases v with
  | null => cases ht
  | string s =>
    cases ht
    rw [Value.literal, String.ofList_toList, coerce]
  | integer n =>
    cases ht
    rw [Value.literal, coerce, String.toList_ofList, readInteger_integerText]
    rfl
  | decimal x =>
    cases ht
    rw [Value.literal, coerce, String.toList_ofList, readDecimal_plainText (hf x rfl)]
    rfl
  | date d =>
    cases ht
    rw [Value.literal, coerce, String.toList_ofList, Date.ofText?_text]
    rfl
  | boolean b =>
    cases ht
    rw [Value.literal, coerce, String.toList_ofList, readBoolean_booleanText]
    rfl

end FilterQuery
