import FilterQuery.Binary64.Text
import FilterQuery.Proofs.Basic

/-!
# Floating-point numbers read back

* `Magnitude.nearest_exact` : a quotient that is a magnitude is rounded to it;
* `Magnitude.shortest_isReadFrom` : the shortest digits read back, also where no shorter ones than
  all the digits of the number do;
* `IsFixed` : digits with at most one point among them, and `isFixed_positional`, that positional text
  is such;
* `Binary64.ofFixed?_plainText` : the text of a finite number is read as that number.
-/

set_option autoImplicit false

namespace FilterQuery

/-! ### Rounding nothing away -/

theorem roundHalfEven_exact (n : Nat) {q : Nat} (hq : 0 < q) : roundHalfEven (n * q) q = n := by
  rw [roundHalfEven, Nat.mul_div_cancel n hq, Nat.mul_mod_left, Nat.mul_zero,
    Nat.compare_eq_lt.2 hq]

namespace Magnitude

theorem eq_zero {m : Magnitude} (h : m.significand = 0) : m = zero := by
  obtain ⟨s, e, hs, he, hc⟩ := m
  dsimp only at h
  subst h
  obtain rfl : e = 0 := by omega
  rfl

theorem ofParts?_self (m : Magnitude) : ofParts? m.significand m.exponent = some m :=
  dif_pos ⟨m.significand_lt, m.exponent_le, m.canonical⟩

theorem log2_quanta {m : Magnitude} (h : m.significand ≠ 0) :
    Nat.log2 m.quanta - 52 = m.exponent := by
  have hlt := m.significand_lt
  rcases m.canonical with he | hs
  · have hq : m.quanta = m.significand := by
      rw [quanta, he]
      exact Nat.mul_one _
    have : m.significand.log2 < 53 := (Nat.log2_lt h).2 hlt
    rw [hq, he]
    omega
  · have hpos : 0 < 2 ^ m.exponent := Nat.two_pow_pos _
    have hq : m.quanta = m.significand * 2 ^ m.exponent := rfl
    have hlog : m.quanta.log2 = 52 + m.exponent := by
      rw [hq, Nat.log2_eq_iff (Nat.mul_ne_zero h hpos.ne'), Nat.add_right_comm, Nat.pow_add,
        Nat.pow_add 2 (52 + 1)]
      exact ⟨Nat.mul_le_mul_right _ hs, Nat.mul_lt_mul_of_pos_right hlt hpos⟩
    omega

/-- A quotient that is a magnitude is rounded to it. -/
theorem nearest_exact {m : Magnitude} (h : m.significand ≠ 0) {d : Nat} (hd : 0 < d) :
    nearest (m.quanta * d) d = some m := by
  have hround : roundHalfEven (m.quanta * d) (d * Nat.pow 2 m.exponent) = m.significand := by
    have : m.quanta * d = m.significand * (d * Nat.pow 2 m.exponent) := by
      rw [quanta, Nat.mul_assoc, Nat.mul_comm d]
    rw [this]
    exact roundHalfEven_exact _ (Nat.mul_pos hd (Nat.two_pow_pos _))
  rw [nearest, Nat.mul_div_cancel _ hd, log2_quanta h, hround, if_neg m.significand_lt.ne,
    ofParts?_self]

/-! ### The shortest digits -/

section Shortest

variable {tie : Tie} {m : Magnitude} {exponent : Int} {digits : Nat}

theorem isReadFrom_iff : m.isReadFrom digits exponent ↔
    0 < digits ∧ ofDecimal digits exponent = some m := by
  rw [isReadFrom, Bool.and_eq_true, decide_eq_true_iff, decide_eq_true_iff]

theorem neighbour?_isReadFrom (h : m.neighbour? tie exponent = some digits) :
    m.isReadFrom digits exponent := by
  unfold neighbour? at h
  dsimp only at h
  generalize m.quanta * _ / _ = low at h
  cases hlow : m.isReadFrom low exponent <;> cases hhigh : m.isReadFrom (low + 1) exponent <;>
    rw [hlow, hhigh] at h <;> dsimp only at h
  · cases h
  · cases h
    exact hhigh
  · cases h
    exact hlow
  · split at h
    · cases h
      exact hlow
    · cases h
      exact hhigh
    · cases tie with
      | up =>
        cases h
        exact hhigh
      | even =>
        rcases Nat.mod_two_eq_zero_or_one low with hmod | hmod <;> cases h <;> rw [hmod]
        · exact hlow
        · exact hhigh

theorem five_mul_two (n : Nat) : Nat.pow 5 n * Nat.pow 2 n = Nat.pow 10 n :=
  (Nat.mul_pow 5 2 n).symm

/-- All the digits of a number read back. -/
theorem isReadFrom_all {n : Nat} (h : m.significand ≠ 0) (hn : 1074 = n) :
    m.isReadFrom (m.quanta * Nat.pow 5 n) (-(n : Int)) := by
  have hquantaPos : 0 < m.quanta := Nat.mul_pos (Nat.pos_of_ne_zero h) (Nat.two_pow_pos _)
  have hpos : 0 < m.quanta * Nat.pow 5 n := Nat.mul_pos hquantaPos (Nat.pow_pos (by decide))
  have hlog : 2 * n ≤ (m.quanta * Nat.pow 5 n).log2 := by
    have hpow : (2 ^ 2) ^ n ≤ 5 ^ n := Nat.pow_le_pow_left (by decide) n
    have hmul : 5 ^ n ≤ m.quanta * 5 ^ n := Nat.le_mul_of_pos_left _ hquantaPos
    rw [Nat.le_log2 hpos.ne', Nat.pow_mul]
    exact Nat.le_trans hpow hmul
  have hquanta : quantaOfOne = Nat.pow 2 n := by
    unfold quantaOfOne
    rw [hn]
  refine isReadFrom_iff.2 ⟨hpos, ?_⟩
  have hexp : (-(n : Int)).toNat = 0 := by omega
  have hexp' : (-(-(n : Int))).toNat = n := by omega
  rw [ofDecimal, if_neg hpos.ne', if_neg (by omega), if_neg (by omega), hexp, hexp', hquanta]
  have : m.quanta * Nat.pow 5 n * Nat.pow 10 0 * Nat.pow 2 n = m.quanta * Nat.pow 10 n := by
    rw [show Nat.pow 10 0 = 1 from rfl, Nat.mul_one, Nat.mul_assoc, five_mul_two]
  rw [this]
  exact nearest_exact h (Nat.pow_pos (by decide))

/-- The shortest digits read back. -/
theorem shortest_isReadFrom (tie : Tie) (h : m.significand ≠ 0) :
    m.isReadFrom (m.shortest tie).1 (m.shortest tie).2 ∧ (m.shortest tie).2 ≤ 308 ∧
      -1074 ≤ (m.shortest tie).2 := by
  rw [shortest]
  cases hf : exponents.findSome? fun e => (m.neighbour? tie e).map (·, e) with
  | none =>
    rw [Option.getD_none]
    have hrange : (-1074 : Int) ≤ 308 ∧ (-1074 : Int) ≤ -1074 := by decide
    refine ⟨?_, hrange⟩
    generalize hn : (1074 : Nat) = n
    rw [show (-1074 : Int) = -(n : Int) by rw [← hn]; rfl]
    exact isReadFrom_all h hn
  | some found =>
    obtain ⟨e, he, hn⟩ := List.exists_of_findSome?_eq_some hf
    obtain ⟨digits, hd, rfl⟩ := Option.map_eq_some_iff.1 hn
    rw [Option.getD_some]
    refine ⟨neighbour?_isReadFrom hd, ?_⟩
    obtain ⟨i, hi, rfl⟩ := List.mem_map.1 he
    have := List.mem_range.1 hi
    dsimp only
    omega

end Shortest

/-- Zeros at the end of the digits are worth as much as a power of ten. -/
theorem ofDecimal_zeros (digits : Nat) {exponent : Int} (h : exponent ≤ 308) :
    ofDecimal (digits * 10 ^ exponent.toNat) (min exponent 0) = ofDecimal digits exponent := by
  by_cases hneg : exponent ≤ 0
  · rw [Int.min_eq_left hneg, Int.toNat_of_nonpos hneg, Nat.pow_zero, Nat.mul_one]
  · obtain ⟨n, rfl⟩ := Int.eq_ofNat_of_zero_le (show 0 ≤ exponent by omega)
    rw [Int.min_eq_right (by omega), Int.toNat_natCast]
    by_cases hd : digits = 0
    · rw [hd, Nat.zero_mul, ofDecimal, if_pos rfl, ofDecimal, if_pos rfl]
    · have hd' : digits * 10 ^ n ≠ 0 := Nat.mul_ne_zero hd (Nat.pow_pos (by decide)).ne'
      have hexp : (-(n : Int)).toNat = 0 := by omega
      rw [ofDecimal, if_neg hd', if_neg (by decide), if_neg (by omega), ofDecimal, if_neg hd,
        if_neg (by omega), if_neg (by omega), Int.toNat_natCast, hexp]
      congr 2
      exact Nat.mul_one _

end Magnitude

/-! ### Positional text -/

namespace Binary64

theorem takeWhile_digits {cs : List Char} (h : ∀ c ∈ cs, c.isDigit) :
    cs.takeWhile Char.isDigit = cs ∧ cs.dropWhile Char.isDigit = [] :=
  ⟨List.takeWhile_eq_self_iff.2 h, List.dropWhile_eq_nil_iff.2 h⟩

theorem fixed?_whole {cs : List Char} (hne : cs ≠ []) (hd : ∀ c ∈ cs, c.isDigit) :
    fixed? cs = some (digitsValue cs, 0, []) := by
  obtain ⟨htake, hdrop⟩ := takeWhile_digits hd
  rw [fixed?, htake, hdrop]
  dsimp only
  rw [if_neg (by simp [hne]), List.append_nil]
  rfl

theorem fixed?_point {whole fraction : List Char} (hne : whole ++ fraction ≠ [])
    (hw : ∀ c ∈ whole, c.isDigit) (hf : ∀ c ∈ fraction, c.isDigit) :
    fixed? (whole ++ '.' :: fraction) =
      some (digitsValue (whole ++ fraction), -(fraction.length : Int), []) := by
  obtain ⟨htake, hdrop⟩ := takeWhile_digits hf
  have hstop : ∀ c ∈ ('.' :: fraction).head?, c.isDigit = false := by
    rintro _ ⟨⟩
    decide
  rw [fixed?, takeWhile_append_of_stop hw hstop, dropWhile_append_of_stop hw hstop]
  show (if whole = [] ∧ fraction.takeWhile Char.isDigit = [] then none
    else some (digitsValue (whole ++ fraction.takeWhile Char.isDigit),
      -((fraction.takeWhile Char.isDigit).length : Int), fraction.dropWhile Char.isDigit)) = _
  rw [htake, hdrop, if_neg fun hnil => hne (List.append_eq_nil_iff.2 hnil)]

end Binary64

/-- The text is digits, or digits with a point among them, and writes `digits * 10 ^ exponent`. -/
inductive IsFixed : List Char → (digits : Nat) → (exponent : Int) → Prop
  | digits {cs : List Char} : cs ≠ [] → (∀ c ∈ cs, c.isDigit) → IsFixed cs (digitsValue cs) 0
  | point {whole fraction : List Char} : whole ≠ [] → (∀ c ∈ whole, c.isDigit) →
      (∀ c ∈ fraction, c.isDigit) →
      IsFixed (whole ++ '.' :: fraction) (digitsValue (whole ++ fraction)) (-(fraction.length : Int))

namespace IsFixed

variable {cs : List Char} {digits : Nat} {exponent : Int}

theorem mem (h : IsFixed cs digits exponent) : ∀ c ∈ cs, c.isDigit ∨ c = '.' := by
  cases h with
  | digits _ hd =>
    intro c hc
    exact .inl (hd c hc)
  | point _ hw hf =>
    intro c hc
    rcases List.mem_append.1 hc with hc | hc
    · exact .inl (hw c hc)
    · rcases List.mem_cons.1 hc with rfl | hc
      · exact .inr rfl
      · exact .inl (hf c hc)

theorem head (h : IsFixed cs digits exponent) : ∃ c rest, cs = c :: rest ∧ c.isDigit := by
  cases h with
  | digits hne hd =>
    obtain ⟨c, rest, rfl⟩ := List.exists_cons_of_ne_nil hne
    exact ⟨c, rest, rfl, hd c List.mem_cons_self⟩
  | point hne hw _ =>
    obtain ⟨c, rest, rfl⟩ := List.exists_cons_of_ne_nil hne
    exact ⟨c, _, rfl, hw c List.mem_cons_self⟩

theorem fixed? (h : IsFixed cs digits exponent) :
    Binary64.fixed? cs = some (digits, exponent, []) := by
  cases h with
  | digits hne hd => exact Binary64.fixed?_whole hne hd
  | point hne hw hf => exact Binary64.fixed?_point (by simp [hne]) hw hf

end IsFixed

theorem isDigit_zeros {n : Nat} {c : Char} (h : c ∈ List.replicate n '0') : c.isDigit := by
  rw [(List.mem_replicate.1 h).2]
  decide

theorem isFixed_zero : IsFixed ['0'] 0 0 :=
  .digits (List.cons_ne_nil _ _) (List.forall_mem_singleton.2 (by decide))

/-- Digits with a point before the last `places`. -/
theorem isFixed_split {text : List Char} {places : Nat} (hd : ∀ c ∈ text, c.isDigit)
    (hlen : places < text.length) :
    IsFixed (text.take (text.length - places) ++ '.' :: text.drop (text.length - places))
      (digitsValue text) (-(places : Int)) := by
  have hne : text.take (text.length - places) ≠ [] := by
    rw [← List.length_pos_iff, List.length_take]
    omega
  have hfraction : (text.drop (text.length - places)).length = places := by
    rw [List.length_drop]
    omega
  have htake : ∀ c ∈ text.take (text.length - places), c.isDigit := by
    intro c hc
    exact hd c (List.mem_of_mem_take hc)
  have hdrop : ∀ c ∈ text.drop (text.length - places), c.isDigit := by
    intro c hc
    exact hd c (List.mem_of_mem_drop hc)
  have h := IsFixed.point hne htake hdrop
  rwa [List.take_append_drop, hfraction] at h

/-- Positional text writes the digits with zeros for a power of ten above one. -/
theorem isFixed_positional (digits : Nat) (exponent : Int) :
    IsFixed (positional digits exponent) (digits * 10 ^ exponent.toNat) (min exponent 0) := by
  unfold positional
  dsimp only
  split
  · next hplaces =>
    have hdigits : ∀ c ∈ Nat.toDigits 10 digits ++ List.replicate exponent.toNat '0',
        c.isDigit := by
      intro c hc
      rcases List.mem_append.1 hc with hc | hc
      · exact isDigit_toDigits hc
      · exact isDigit_zeros hc
    have hvalue : digitsValue (Nat.toDigits 10 digits ++ List.replicate exponent.toNat '0') =
        digits * 10 ^ exponent.toNat := by
      rw [digitsValue_append, digitsValue_toDigits, digitsValue_zeros, List.length_replicate,
        Nat.add_zero, Nat.mul_comm]
    have hmin : min exponent 0 = 0 := by omega
    rw [← hvalue, hmin]
    exact .digits (by simp [Nat.toDigits_ne_nil]) hdigits
  · next hplaces =>
    generalize htext : List.replicate ((-exponent).toNat + 1 - (Nat.toDigits 10 digits).length) '0' ++
      Nat.toDigits 10 digits = text
    have hlen : (-exponent).toNat < text.length := by
      rw [← htext, List.length_append, List.length_replicate]
      omega
    have hdigits : ∀ c ∈ text, c.isDigit := by
      rw [← htext]
      intro c hc
      rcases List.mem_append.1 hc with hc | hc
      · exact isDigit_zeros hc
      · exact isDigit_toDigits hc
    have hexp : exponent.toNat = 0 := by omega
    have hvalue : digitsValue text = digits * 10 ^ exponent.toNat := by
      rw [← htext, digitsValue_append, digitsValue_zeros, digitsValue_toDigits, Nat.mul_zero,
        Nat.zero_add, hexp, Nat.pow_zero, Nat.mul_one]
    have hmin : min exponent 0 = -((-exponent).toNat : Int) := by omega
    rw [← hvalue, hmin]
    exact isFixed_split hdigits hlen

namespace Binary64

theorem splitSign_signText (negative : Bool) {c : Char} {cs : List Char} (h : c.isDigit) :
    splitSign (signText negative ++ c :: cs) = (negative, c :: cs) := by
  cases negative with
  | true => rfl
  | false =>
    show splitSign (c :: cs) = (false, c :: cs)
    unfold splitSign
    split
    · next heq =>
      cases heq
      exact absurd h (by decide)
    · next heq =>
      cases heq
      exact absurd h (by decide)
    · rfl

theorem ofFixed?_of_isFixed (negative : Bool) {cs : List Char} {digits : Nat} {exponent : Int}
    (h : IsFixed cs digits exponent) :
    ofFixed? (signText negative ++ cs) = some (ofDecimal negative digits exponent) := by
  obtain ⟨c, rest, rfl, hc⟩ := h.head
  rw [ofFixed?, splitSign_signText negative hc]
  dsimp only
  rw [h.fixed?]

/-- The text of a finite number is a sign and fixed-point text that writes the number. -/
theorem exists_isFixed (negative : Bool) (m : Magnitude) : ∃ cs digits exponent,
    plainText (finite negative m) = signText negative ++ cs ∧ IsFixed cs digits exponent ∧
      Magnitude.ofDecimal digits exponent = some m := by
  by_cases h : m.significand = 0
  · refine ⟨['0'], 0, 0, ?_, isFixed_zero, ?_⟩
    · rw [plainText, if_pos h]
    · rw [Magnitude.eq_zero h, Magnitude.ofDecimal, if_pos rfl]
  · obtain ⟨hread, hle, -⟩ := Magnitude.shortest_isReadFrom .up h
    refine ⟨_, _, _, ?_, isFixed_positional (m.shortest .up).1 (m.shortest .up).2, ?_⟩
    · rw [plainText, if_neg h]
    · rw [Magnitude.ofDecimal_zeros _ hle]
      exact (Magnitude.isReadFrom_iff.1 hread).2

/-- The text of a finite number is read as that number. -/
theorem ofFixed?_plainText (negative : Bool) (m : Magnitude) :
    ofFixed? (plainText (finite negative m)) = some (finite negative m) := by
  obtain ⟨cs, digits, exponent, htext, hcs, hm⟩ := exists_isFixed negative m
  rw [htext, ofFixed?_of_isFixed negative hcs, ofDecimal, hm]
  rfl

end Binary64
end FilterQuery
