import FilterQuery.Binary64.Text
import FilterQuery.Proofs.Basic

/-!
# Signs and digits

* `Binary64.signed_natAbs` : an integer from its sign and its absolute value;
* `WritesNat` : digits, one at least, and the number they write;
* `toList_toString_int`, `head?_toDigits` : the text of an integer;
* `WritesSign` : a sign or nothing, and whether it is a minus;
* `splitSign_of_writesSign`, `exists_writesSign` : a sign is what is split off.
-/

set_option autoImplicit false

namespace FilterQuery

/-! ### Numbers with signs -/

namespace Binary64

theorem signed_false (n : Nat) : signed false n = n := rfl

theorem signed_true (n : Nat) : signed true n = -n := rfl

theorem signed_natAbs (z : Int) : signed (z < 0) z.natAbs = z := by
  by_cases h : z < 0
  · rw [decide_eq_true h, signed_true]
    omega
  · rw [decide_eq_false h, signed_false]
    omega

end Binary64

/-! ### Their texts -/

/-- The text is digits, one at least, and they write `n`. -/
structure WritesNat (cs : List Char) (n : Nat) : Prop where
  ne_nil : cs ≠ []
  isDigit : ∀ c ∈ cs, c.isDigit
  value : digitsValue cs = n

/-- The text is a sign or nothing; `negative` says whether it is a minus. -/
inductive WritesSign : (sign : List Char) → (negative : Bool) → Prop
  | none : WritesSign [] false
  | plus : WritesSign ['+'] false
  | minus : WritesSign ['-'] true

theorem writesSign_signText (negative : Bool) : WritesSign (Binary64.signText negative) negative := by
  cases negative with
  | false => exact .none
  | true => exact .minus

theorem writesNat_toDigits (n : Nat) : WritesNat (Nat.toDigits 10 n) n :=
  ⟨Nat.toDigits_ne_nil, fun _ => isDigit_toDigits, digitsValue_toDigits n⟩

/-- An integer is written as its sign and the digits of its absolute value. -/
theorem toList_toString_int (z : Int) :
    (toString z).toList = Binary64.signText (z < 0) ++ Nat.toDigits 10 z.natAbs := by
  cases z with
  | ofNat n => exact Nat.toList_repr
  | negSucc n =>
    rw [decide_eq_true (Int.negSucc_lt_zero n), Int.natAbs_negSucc, ← Nat.toList_repr]
    exact String.toList_append

/-- No zero stands in front of the digits of a number. -/
theorem head?_toDigits {n : Nat} (h : 0 < n) : (Nat.toDigits 10 n).head? ≠ some '0' := by
  induction n using Nat.strongRecOn with
  | ind n ih =>
    by_cases hn : n < 10
    · have hall : ∀ i : Fin 10, 0 < i.val → [Nat.digitChar i.val].head? ≠ some '0' := by decide
      rw [Nat.toDigits_of_lt_base hn]
      exact hall ⟨n, hn⟩ h
    · rw [Nat.toDigits_of_base_le (by decide) (Nat.not_lt.1 hn),
        List.head?_append_of_ne_nil _ Nat.toDigits_ne_nil]
      exact ih (n / 10) (by omega) (by omega)

theorem WritesNat.exists_cons {cs : List Char} {n : Nat} (h : WritesNat cs n) :
    ∃ c rest, cs = c :: rest ∧ c.isDigit := by
  obtain ⟨c, rest, rfl⟩ := List.exists_cons_of_ne_nil h.ne_nil
  exact ⟨c, rest, rfl, h.isDigit c List.mem_cons_self⟩

theorem not_sign_of_isDigit {c : Char} (h : c.isDigit) : c ≠ '-' ∧ c ≠ '+' := by
  constructor
  · rintro rfl
    exact absurd h (by decide)
  · rintro rfl
    exact absurd h (by decide)

/-- What stands before a character that is no sign is split off. -/
theorem splitSign_of_writesSign {sign : List Char} {negative : Bool} (h : WritesSign sign negative)
    {c : Char} (hc : c ≠ '-' ∧ c ≠ '+') (cs : List Char) :
    splitSign (sign ++ c :: cs) = (negative, c :: cs) := by
  cases h with
  | none =>
    show splitSign (c :: cs) = (false, c :: cs)
    unfold splitSign
    split
    · next heq => exact absurd (List.cons.inj heq).1 hc.1
    · next heq => exact absurd (List.cons.inj heq).1 hc.2
    · rfl
  | plus => rfl
  | minus => rfl

/-- Whatever a text begins with, a sign can be told from what follows. -/
theorem exists_writesSign (cs : List Char) : ∃ sign rest negative, cs = sign ++ rest ∧
    WritesSign sign negative ∧ splitSign cs = (negative, rest) ∧
      (sign = [] → ∀ c ∈ rest.head?, c ≠ '-' ∧ c ≠ '+') := by
  unfold splitSign
  split
  · exact ⟨_, _, _, rfl, .minus, rfl, nofun⟩
  · exact ⟨_, _, _, rfl, .plus, rfl, nofun⟩
  · next hminus hplus =>
    refine ⟨_, cs, _, rfl, .none, rfl, fun _ c hc => ?_⟩
    obtain ⟨rest, rfl⟩ := List.head?_eq_some_iff.1 hc
    exact ⟨by rintro rfl; exact hminus _ rfl, by rintro rfl; exact hplus _ rfl⟩

end FilterQuery
