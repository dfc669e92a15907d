import FilterQuery.Proofs.Digits
import FilterQuery.Value.Coercion

/-!
# Integers read back

* `readDigits_eq` : digits are read as the number they write, up to the limit;
* `WritesInteger`, `readInteger_eq_ok_iff` : the texts that are read as integers, and as which;
* `readInteger_integerText` : the text of an integer is read as that integer.
-/

set_option autoImplicit false

namespace FilterQuery

/-- The text is an optional sign and digits, one at least, and they write `n`. -/
inductive WritesInteger : List Char → (n : Int) → Prop
  | intro {sign digits : List Char} {negative : Bool} {n : Nat} : WritesSign sign negative →
      WritesNat digits n → WritesInteger (sign ++ digits) (Binary64.signed negative n)

theorem readDigits_eq {limit : Nat} {overflow : IntegerFault} {cs : List Char} {n : Nat}
    (hd : ∀ c ∈ cs, c.isDigit) (hle : Nat.ofDigitChars 10 cs n ≤ limit) :
    readDigits limit overflow n cs = .ok (Nat.ofDigitChars 10 cs n) := by
  induction cs generalizing n with
  | nil => rfl
  | cons c cs ih =>
    obtain ⟨hc, hd⟩ := List.forall_mem_cons.1 hd
    rw [Nat.ofDigitChars_cons] at hle ⊢
    have hlimit := Nat.le_trans (le_ofDigitChars cs _) hle
    rw [readDigits, if_pos hc]
    dsimp only
    rw [if_pos hlimit, ih hd hle]

theorem readInteger_digits {cs : List Char} (hne : cs ≠ []) (hd : ∀ c ∈ cs, c.isDigit)
    (hle : digitsValue cs ≤ maxInteger) : readInteger cs = .ok (Int64.ofNat (digitsValue cs)) := by
  match cs, hne with
  | [c], _ =>
    rw [readInteger, if_pos (hd c List.mem_cons_self), digitsValue, Nat.ofDigitChars_cons]
    simp
  | c :: d :: rest, _ =>
    have hc := hd c List.mem_cons_self
    have hminus : c ≠ '-' := by
      rintro rfl
      exact absurd hc (by decide)
    have hplus : c ≠ '+' := by
      rintro rfl
      exact absurd hc (by decide)
    rw [readInteger, readDigits_eq hd hle]
    · rfl
    all_goals simp [hminus, hplus]

theorem readInteger_positive {cs : List Char} (hne : cs ≠ []) (hd : ∀ c ∈ cs, c.isDigit)
    (hle : digitsValue cs ≤ maxInteger) :
    readInteger ('+' :: cs) = .ok (Int64.ofNat (digitsValue cs)) := by
  obtain ⟨c, rest, rfl⟩ := List.exists_cons_of_ne_nil hne
  rw [readInteger, readDigits_eq hd hle]
  · rfl
  · simp

theorem readInteger_negative {cs : List Char} (hne : cs ≠ []) (hd : ∀ c ∈ cs, c.isDigit)
    (hle : digitsValue cs ≤ maxInteger + 1) :
    readInteger ('-' :: cs) = .ok (Int64.ofInt (-(digitsValue cs : Int))) := by
  obtain ⟨c, rest, rfl⟩ := List.exists_cons_of_ne_nil hne
  rw [readInteger, readDigits_eq hd hle]
  · rfl
  · simp

/-- What is read up to the limit is digits. -/
theorem writesDigits_of_readDigits {limit : Nat} {overflow : IntegerFault} {cs : List Char} {n m : Nat}
    (hn : n ≤ limit) (h : readDigits limit overflow n cs = .ok m) :
    (∀ c ∈ cs, c.isDigit) ∧ Nat.ofDigitChars 10 cs n = m ∧ m ≤ limit := by
  induction cs generalizing n with
  | nil =>
    cases h
    exact ⟨List.forall_mem_nil _, rfl, hn⟩
  | cons c cs ih =>
    unfold readDigits at h
    split at h
    · next hc =>
      dsimp only at h
      split at h
      · next hle =>
        obtain ⟨hd, hvalue, hm⟩ := ih hle h
        exact ⟨List.forall_mem_cons.2 ⟨hc, hd⟩, by rw [Nat.ofDigitChars_cons, hvalue], hm⟩
      · cases h
    · cases h

theorem writesInteger_of_readDigits {limit m : Nat} {overflow : IntegerFault} {sign digits : List Char}
    {negative : Bool} {n : Int64} (hne : digits ≠ []) (hsign : WritesSign sign negative)
    (h : readDigits limit overflow 0 digits = .ok m)
    (hn : m ≤ limit → n.toInt = Binary64.signed negative m) :
    WritesInteger (sign ++ digits) n.toInt := by
  obtain ⟨hd, hvalue, hle⟩ := writesDigits_of_readDigits (Nat.zero_le _) h
  rw [hn hle]
  exact .intro hsign ⟨hne, hd, hvalue⟩

theorem toInt_ofNat {m : Nat} (h : m ≤ maxInteger) :
    (Int64.ofNat m).toInt = Binary64.signed false m :=
  Int64.toInt_ofNat_of_lt (Nat.lt_succ_of_le h)

theorem writesInteger_of_readInteger {cs : List Char} {n : Int64} (h : readInteger cs = .ok n) :
    WritesInteger cs n.toInt := by
  unfold readInteger at h
  split at h
  · cases h
  · next c =>
    split at h
    · next hc =>
      cases h
      have hle : c.toNat - '0'.toNat ≤ maxInteger := by
        have hnine : c.toNat ≤ 57 := (Char.isDigit_iff_toNat.1 hc).2
        unfold maxInteger
        omega
      have hvalue : digitsValue [c] = c.toNat - '0'.toNat := by
        rw [digitsValue, Nat.ofDigitChars_cons, Nat.ofDigitChars_nil, Nat.mul_zero, Nat.zero_add]
      rw [toInt_ofNat hle]
      exact .intro .none ⟨List.cons_ne_nil _ _, List.forall_mem_singleton.2 hc, hvalue⟩
    · cases h
  · next digits hne =>
    obtain ⟨_, hread, rfl⟩ := map_eq_ok.1 h
    obtain ⟨m, hm, hcast⟩ := bind_eq_ok.1 hread
    cases hcast
    refine writesInteger_of_readDigits (fun h => hne h) .minus hm fun hle => ?_
    rw [Int64.toInt_ofInt_of_le]
    · rfl
    all_goals unfold maxInteger at hle; omega
  · next digits hne =>
    obtain ⟨m, hm, rfl⟩ := map_eq_ok.1 h
    exact writesInteger_of_readDigits (fun h => hne h) .plus hm toInt_ofNat
  · next hne _ _ _ =>
    obtain ⟨m, hm, rfl⟩ := map_eq_ok.1 h
    exact writesInteger_of_readDigits hne .none hm toInt_ofNat

/-- Integers are read from an optional sign and digits, as the number they write where it is in range. -/
theorem readInteger_eq_ok_iff {cs : List Char} {n : Int64} :
    readInteger cs = .ok n ↔ WritesInteger cs n.toInt := by
  refine ⟨writesInteger_of_readInteger, ?_⟩
  generalize hz : n.toInt = z
  rintro @⟨sign, digits, negative, k, hsign, hne, hd, rfl⟩
  have hmax := n.toInt_lt
  have hmin := n.le_toInt
  obtain rfl := (Int64.ofInt_toInt n).symm.trans (congrArg Int64.ofInt hz)
  rw [hz] at hmax hmin
  have hle : negative = false → digitsValue digits ≤ maxInteger := by
    rintro rfl
    exact Nat.le_of_lt_succ (Int.ofNat_lt.1 hmax)
  cases hsign with
  | none =>
    rw [List.nil_append, readInteger_digits hne hd (hle rfl)]
    exact congrArg Except.ok Int64.ofInt_eq_ofNat.symm
  | plus =>
    rw [List.singleton_append, readInteger_positive hne hd (hle rfl)]
    exact congrArg Except.ok Int64.ofInt_eq_ofNat.symm
  | minus =>
    -- the least integer is further from zero by one than the largest
    have hle : digitsValue digits ≤ maxInteger + 1 := Int.ofNat_le.1 (Int.neg_le_neg_iff.1 hmin)
    rw [List.singleton_append, readInteger_negative hne hd hle]
    rfl

theorem natAbs_toInt_le (n : Int64) : n.toInt.natAbs ≤ 2 ^ 63 := by
  have hle := n.le_toInt
  have hlt := n.toInt_lt
  omega

theorem integerText_eq (n : Int64) : Value.integerText n =
    Binary64.signText (n.toInt < 0) ++ Nat.toDigits 10 n.toInt.natAbs := toList_toString_int n.toInt

theorem integerText_of_nonneg {n : Int64} (h : 0 ≤ n.toInt) :
    Value.integerText n = Nat.toDigits 10 n.toInt.toNat := by
  have habs : n.toInt.natAbs = n.toInt.toNat := by omega
  rw [integerText_eq, decide_eq_false (Int.not_lt.2 h), habs]
  rfl

theorem integerText_of_neg {n : Int64} (h : n.toInt < 0) :
    Value.integerText n = '-' :: Nat.toDigits 10 n.toInt.natAbs := by
  rw [integerText_eq, decide_eq_true h]
  rfl

theorem writesInteger_integerText (n : Int64) : WritesInteger (Value.integerText n) n.toInt := by
  have h := WritesInteger.intro (writesSign_signText (n.toInt < 0)) (writesNat_toDigits n.toInt.natAbs)
  rwa [← integerText_eq, Binary64.signed_natAbs] at h

/-- The text of an integer is read as that integer. -/
theorem readInteger_integerText (n : Int64) : readInteger (Value.integerText n) = .ok n :=
  readInteger_eq_ok_iff.2 (writesInteger_integerText n)

end FilterQuery
