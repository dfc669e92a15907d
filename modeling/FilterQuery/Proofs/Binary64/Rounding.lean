import FilterQuery.Proofs.Binary64.Plain
import FilterQuery.Proofs.Digits
import Mathlib.Algebra.Order.Field.Rat
import Mathlib.Data.Rat.Cast.Order
import Mathlib.Order.Compare
import Mathlib.Tactic.Linarith
import Mathlib.Tactic.Ring

/-!
# Rounding and order

Rounding does not carry a number past one that needs no rounding.

* `le_roundHalfEven`, `roundHalfEven_le` : quotients stay on their side of whole numbers;
* `Magnitude.quanta_le_nearest`, `Magnitude.nearest_le_quanta` : and on their side of magnitudes;
* `Binary64.toRat?` : the rational number that a finite number is, and `Binary64.order_eq_compare`,
  that numbers have the order of these;
* `Binary64.exists_ofInt` : where an integer is rounded to.
-/

set_option autoImplicit false

namespace FilterQuery

/-! ### Whole numbers -/

theorem le_roundHalfEven {k p q : Nat} (hq : 0 < q) (h : k * q ≤ p) : k ≤ roundHalfEven p q := by
  have hfloor : k ≤ p / q := (Nat.le_div_iff_mul_le hq).2 h
  unfold roundHalfEven
  dsimp only
  split <;> omega

theorem roundHalfEven_le {k p q : Nat} (hq : 0 < q) (h : p ≤ k * q) : roundHalfEven p q ≤ k := by
  rcases Nat.eq_or_lt_of_le h with rfl | h
  · rw [roundHalfEven_exact k hq]
  · have hfloor : p / q < k := (Nat.div_lt_iff_lt_mul hq).2 h
    unfold roundHalfEven
    dsimp only
    split <;> omega

/-! ### Magnitudes -/

namespace Magnitude

/-- The exponent at which a quotient is rounded. -/
def grid (p q : Nat) : Nat := Nat.log2 (p / q) - 52

variable {p q : Nat} {m r : Magnitude}

theorem nearest_eq (p q : Nat) : nearest p q =
    if roundHalfEven p (q * 2 ^ grid p q) = 2 ^ 53 then ofParts? (2 ^ 52) (grid p q + 1)
    else ofParts? (roundHalfEven p (q * 2 ^ grid p q)) (grid p q) := rfl

theorem quanta_of_ofParts? {s e : Nat} (h : ofParts? s e = some m) : m.quanta = s * 2 ^ e := by
  unfold ofParts? at h
  split at h
  · cases h
    rfl
  · cases h

/-- The quanta of a magnitude with at most the exponent `e` above the grid. -/
theorem quanta_eq (m : Magnitude) {e : Nat} (h : e ≤ m.exponent) :
    m.quanta = m.significand * 2 ^ (m.exponent - e) * 2 ^ e := by
  rw [Nat.mul_assoc, ← Nat.pow_add, Nat.sub_add_cancel h]
  rfl

theorem quanta_lt (m : Magnitude) {e : Nat} (h : m.exponent < e) :
    m.quanta < 2 ^ 52 * 2 ^ e := by
  have hunit : 2 * 2 ^ m.exponent ≤ 2 ^ e := by
    rw [← Nat.pow_succ']
    exact Nat.pow_le_pow_right (by decide) h
  calc m.quanta = m.significand * 2 ^ m.exponent := rfl
    _ < 2 ^ 53 * 2 ^ m.exponent := Nat.mul_lt_mul_of_pos_right m.significand_lt (Nat.two_pow_pos _)
    _ = 2 ^ 52 * (2 * 2 ^ m.exponent) := by ring
    _ ≤ 2 ^ 52 * 2 ^ e := Nat.mul_le_mul_left _ hunit

/-- A quotient has 53 bits above the grid, unless the grid is that of the quanta. -/
theorem grid_le (hq : 0 < q) (h : 0 < grid p q) : 2 ^ 52 * (q * 2 ^ grid p q) ≤ p := by
  have hne : p / q ≠ 0 := by
    intro hzero
    rw [grid, hzero] at h
    exact absurd h (by decide)
  have hlog : 2 ^ (52 + grid p q) ≤ p / q := by
    have : 52 + grid p q = Nat.log2 (p / q) := by
      unfold grid at h ⊢
      omega
    rw [this]
    exact Nat.log2_self_le hne
  calc 2 ^ 52 * (q * 2 ^ grid p q) = 2 ^ (52 + grid p q) * q := by rw [Nat.pow_add]; ring
    _ ≤ p := (Nat.le_div_iff_mul_le hq).1 hlog

/-- What a quotient is rounded to is a multiple of the grid's unit. -/
theorem quanta_nearest (h : nearest p q = some r) :
    r.quanta = roundHalfEven p (q * 2 ^ grid p q) * 2 ^ grid p q := by
  rw [nearest_eq] at h
  split at h
  · next hs =>
    rw [quanta_of_ofParts? h, hs]
    ring
  · exact quanta_of_ofParts? h

/-- A multiple of the grid's unit is not rounded. -/
theorem quanta_nearest_of_dvd (h : nearest p 1 = some r) (hd : 2 ^ grid p 1 ∣ p) :
    r.quanta = p := by
  obtain ⟨k, hk⟩ := hd
  have hround : roundHalfEven p (1 * 2 ^ grid p 1) = k := by
    rw [Nat.one_mul]
    generalize grid p 1 = e at hk
    rw [hk, Nat.mul_comm]
    exact roundHalfEven_exact k (Nat.two_pow_pos e)
  rw [quanta_nearest h, hround, Nat.mul_comm, ← hk]

/-- A magnitude below a quotient is below what that is rounded to. -/
theorem quanta_le_nearest (hq : 0 < q) (h : nearest p q = some r) (hm : m.quanta * q ≤ p) :
    m.quanta ≤ r.quanta := by
  have hunit : 0 < q * 2 ^ grid p q := Nat.mul_pos hq (Nat.two_pow_pos _)
  rw [quanta_nearest h]
  rcases Nat.lt_or_ge m.exponent (grid p q) with hlt | hge
  · have hround : 2 ^ 52 ≤ roundHalfEven p (q * 2 ^ grid p q) :=
      le_roundHalfEven hunit (grid_le hq (Nat.lt_of_le_of_lt (Nat.zero_le _) hlt))
    exact Nat.le_trans (quanta_lt m hlt).le (Nat.mul_le_mul_right _ hround)
  · rw [quanta_eq m hge] at hm ⊢
    rw [Nat.mul_assoc, Nat.mul_comm _ q] at hm
    exact Nat.mul_le_mul_right _ (le_roundHalfEven hunit hm)

/-- A magnitude above a quotient is above what that is rounded to. -/
theorem nearest_le_quanta (hq : 0 < q) (h : nearest p q = some r) (hm : p ≤ m.quanta * q) :
    r.quanta ≤ m.quanta := by
  have hunit : 0 < q * 2 ^ grid p q := Nat.mul_pos hq (Nat.two_pow_pos _)
  rw [quanta_nearest h]
  rcases Nat.lt_or_ge m.exponent (grid p q) with hlt | hge
  · have hgrid := grid_le hq (Nat.lt_of_le_of_lt (Nat.zero_le _) hlt)
    have hmul := Nat.mul_lt_mul_of_pos_right (quanta_lt m hlt) hq
    rw [Nat.mul_assoc, Nat.mul_comm (2 ^ grid p q) q] at hmul
    omega
  · rw [quanta_eq m hge] at hm ⊢
    rw [Nat.mul_assoc, Nat.mul_comm _ q] at hm
    exact Nat.mul_le_mul_right _ (roundHalfEven_le hunit hm)

/-- A quotient has 54 bits above the grid only if it is rounded up to a power of two. -/
theorem roundHalfEven_grid_le (hq : 0 < q) : roundHalfEven p (q * 2 ^ grid p q) ≤ 2 ^ 53 := by
  apply roundHalfEven_le (Nat.mul_pos hq (Nat.two_pow_pos _))
  have hlog : p / q < 2 ^ (53 + grid p q) := by
    refine Nat.lt_of_lt_of_le Nat.lt_log2_self (Nat.pow_le_pow_right (by decide) ?_)
    unfold grid
    omega
  rw [Nat.div_lt_iff_lt_mul hq, Nat.pow_add] at hlog
  calc p ≤ 2 ^ 53 * 2 ^ grid p q * q := hlog.le
    _ = 2 ^ 53 * (q * 2 ^ grid p q) := by ring

theorem grid_eq_zero_or_le (hq : 0 < q) :
    grid p q = 0 ∨ 2 ^ 52 ≤ roundHalfEven p (q * 2 ^ grid p q) := by
  rcases Nat.eq_zero_or_pos (grid p q) with hzero | hpos
  · exact .inl hzero
  · exact .inr (le_roundHalfEven (Nat.mul_pos hq (Nat.two_pow_pos _)) (grid_le hq hpos))

/-- A quotient that is not too large is rounded to a magnitude. -/
theorem exists_nearest (hq : 0 < q) (h : Nat.log2 (p / q) < 2097) : ∃ r, nearest p q = some r := by
  have hgrid : grid p q ≤ 2044 := by
    unfold grid
    omega
  have hle := roundHalfEven_grid_le (p := p) hq
  have hcanonical := grid_eq_zero_or_le (p := p) hq
  rw [nearest_eq]
  split
  · exact ⟨_, dif_pos ⟨by decide, by omega, .inr (by decide)⟩⟩
  · next hne => exact ⟨_, dif_pos ⟨Nat.lt_of_le_of_ne hle hne, by omega, hcanonical⟩⟩

end Magnitude

/-! ### The rational numbers behind -/

namespace Binary64

/-- The rational number that a finite number is. -/
def toRat? : Binary64 → Option ℚ
  | finite negative m => some (signed negative m.significand * 2 ^ ((m.exponent : ℤ) - 1074))
  | _ => none

/-- The exponent has a name so that the power is not worked out. -/
theorem quantaOfOne_eq {e : Nat} (he : 1074 = e) : quantaOfOne = 2 ^ e := by
  unfold quantaOfOne
  rw [he]
  rfl

theorem cast_quantaOfOne : (quantaOfOne : ℚ) = 2 ^ 1074 := by
  rw [quantaOfOne_eq rfl, Nat.cast_pow, Nat.cast_ofNat]

theorem quantaOfOne_pos : (0 : ℚ) < quantaOfOne := by
  rw [cast_quantaOfOne]
  exact pow_pos two_pos 1074

theorem toRat?_finite (negative : Bool) (m : Magnitude) :
    (finite negative m).toRat? = some ((signed negative m.quanta : ℚ) / quantaOfOne) := by
  have hquanta : (m.quanta : ℚ) = m.significand * 2 ^ m.exponent := by
    rw [Magnitude.quanta, Nat.cast_mul]
    exact congrArg _ (Nat.cast_pow 2 m.exponent)
  have hvalue : (m.significand : ℚ) * 2 ^ ((m.exponent : ℤ) - 1074) = m.quanta / quantaOfOne := by
    rw [hquanta, cast_quantaOfOne, zpow_sub₀ two_ne_zero, mul_div_assoc, zpow_natCast]
    exact congrArg (fun unit => (m.significand : ℚ) * (2 ^ m.exponent / unit)) (zpow_natCast 2 1074)
  cases negative with
  | false =>
    rw [toRat?, signed_false, signed_false, Int.cast_natCast, Int.cast_natCast, hvalue]
  | true =>
    rw [toRat?, signed_true, signed_true, Int.cast_neg, Int.cast_neg, Int.cast_natCast,
      Int.cast_natCast, neg_mul, hvalue, neg_div]

theorem exists_of_toRat? {x : Binary64} {q : ℚ} (h : x.toRat? = some q) :
    ∃ negative m, x = finite negative m ∧ q = (signed negative m.quanta : ℚ) / quantaOfOne := by
  cases x with
  | finite negative m =>
    rw [toRat?_finite] at h
    exact ⟨negative, m, rfl, (Option.some.inj h).symm⟩
  | nan | infinite => cases h

/-- Finite numbers have the order of the rational numbers that they are. -/
theorem order_eq_compare {x y : Binary64} {p q : ℚ} (hx : x.toRat? = some p)
    (hy : y.toRat? = some q) : x.order y = some (compare p q) := by
  obtain ⟨negative, m, rfl, rfl⟩ := exists_of_toRat? hx
  obtain ⟨negative', m', rfl, rfl⟩ := exists_of_toRat? hy
  have hmono : StrictMono fun k : ℤ => (k : ℚ) / quantaOfOne := by
    intro a b hab
    exact div_lt_div_of_pos_right (Int.cast_lt.2 hab) quantaOfOne_pos
  have hcompare := hmono.cmp_map_eq (signed negative m.quanta) (signed negative' m'.quanta)
  rw [cmp_eq_compare, cmp_eq_compare] at hcompare
  rw [hcompare]
  rfl

/-- The size of an integer in quanta. -/
theorem log2_quanta_lt {n bits : Nat} (h : n < 2 ^ bits) :
    Nat.log2 (n * quantaOfOne / 1) < bits + 1074 := by
  rw [Nat.div_one]
  rcases Nat.eq_zero_or_pos n with rfl | hpos
  · rw [Nat.zero_mul]
    exact Nat.lt_of_lt_of_le (by decide) (Nat.le_add_left 1074 bits)
  · generalize he : (1074 : Nat) = e
    rw [quantaOfOne_eq he]
    have hne : n * 2 ^ e ≠ 0 := (Nat.mul_pos hpos (Nat.two_pow_pos e)).ne'
    rw [Nat.log2_lt hne, Nat.pow_add]
    exact Nat.mul_lt_mul_of_pos_right h (Nat.two_pow_pos e)

/-- An integer of 64 bits is rounded to a finite number, which lies on the same side of every finite
number as the integer. -/
theorem exists_ofInt {n : ℤ} (h : n.natAbs ≤ 2 ^ 63) : ∃ negative r, ofInt n = finite negative r ∧
    ∀ negative' (m : Magnitude),
      (signed negative' m.quanta ≤ n * quantaOfOne →
        signed negative' m.quanta ≤ signed negative r.quanta) ∧
      (n * quantaOfOne ≤ signed negative' m.quanta →
        signed negative r.quanta ≤ signed negative' m.quanta) := by
  have hsize : n.natAbs < 2 ^ 64 := Nat.lt_of_le_of_lt h (by decide)
  have hlog : Nat.log2 (n.natAbs * quantaOfOne / 1) < 2097 :=
    (log2_quanta_lt hsize).trans (by decide)
  obtain ⟨r, hr⟩ := Magnitude.exists_nearest Nat.one_pos hlog
  refine ⟨n < 0, r, by rw [ofInt, hr]; rfl, ?_⟩
  intro negative' m
  have hle := (Nat.lt_or_ge (n.natAbs * quantaOfOne) (m.quanta * 1)).imp_right
    (Magnitude.quanta_le_nearest Nat.one_pos hr)
  have hge := (Nat.lt_or_ge (m.quanta * 1) (n.natAbs * quantaOfOne)).imp_right
    (Magnitude.nearest_le_quanta Nat.one_pos hr)
  have hone : 0 < quantaOfOne := Nat.cast_pos.1 quantaOfOne_pos
  rcases lt_or_ge n 0 with hneg | hnonneg
  · have habs : ((n.natAbs * quantaOfOne : Nat) : ℤ) = -(n * quantaOfOne) := by
      rw [Nat.cast_mul, Int.ofNat_natAbs_of_nonpos hneg.le, Int.neg_mul]
    have hpos : 0 < n.natAbs * quantaOfOne := Nat.mul_pos (Int.natAbs_pos.2 hneg.ne) hone
    rw [decide_eq_true hneg]
    generalize n.natAbs * quantaOfOne = k at hle hge habs hpos
    cases negative' <;> simp only [signed_false, signed_true] <;> omega
  · have habs : ((n.natAbs * quantaOfOne : Nat) : ℤ) = n * quantaOfOne := by
      rw [Nat.cast_mul, Int.natAbs_of_nonneg hnonneg]
    rw [decide_eq_false (Int.not_lt.2 hnonneg)]
    generalize n.natAbs * quantaOfOne = k at hle hge habs
    cases negative' <;> simp only [signed_false, signed_true] <;> omega

/-- An integer is rounded to a number that lies on the same side of every other finite number. -/
theorem exists_toRat?_ofInt {n : ℤ} (h : n.natAbs ≤ 2 ^ 63) : ∃ r, (ofInt n).toRat? = some r ∧
    ∀ x q, toRat? x = some q → (q ≤ n → q ≤ r) ∧ (n ≤ q → r ≤ q) := by
  obtain ⟨negative, r, hr, hsides⟩ := exists_ofInt h
  refine ⟨_, by rw [hr, toRat?_finite], ?_⟩
  intro x q hx
  obtain ⟨negative', m, rfl, rfl⟩ := exists_of_toRat? hx
  obtain ⟨hbelow, habove⟩ := hsides negative' m
  have hcast : (n : ℚ) * quantaOfOne = ((n * quantaOfOne : ℤ) : ℚ) := by push_cast; rfl
  constructor
  · intro hle
    rw [div_le_iff₀ quantaOfOne_pos, hcast, Int.cast_le] at hle
    exact div_le_div_of_nonneg_right (Int.cast_le.2 (hbelow hle)) quantaOfOne_pos.le
  · intro hle
    rw [le_div_iff₀ quantaOfOne_pos, hcast, Int.cast_le] at hle
    exact div_le_div_of_nonneg_right (Int.cast_le.2 (habove hle)) quantaOfOne_pos.le

/-- An integer of at most 53 bits is not rounded. -/
theorem toRat?_ofInt {n : ℤ} (h : n.natAbs < 2 ^ 53) : (ofInt n).toRat? = some (n : ℚ) := by
  have hlog := log2_quanta_lt h
  obtain ⟨r, hr⟩ := Magnitude.exists_nearest Nat.one_pos (hlog.trans (by decide))
  have hgrid : Magnitude.grid (n.natAbs * quantaOfOne) 1 ≤ 1074 := by
    unfold Magnitude.grid
    omega
  have hexact : r.quanta = n.natAbs * quantaOfOne := by
    apply Magnitude.quanta_nearest_of_dvd hr
    generalize Magnitude.grid (n.natAbs * quantaOfOne) 1 = g at hgrid
    generalize he : (1074 : Nat) = e
    rw [quantaOfOne_eq he]
    exact dvd_mul_of_dvd_right (pow_dvd_pow 2 (by omega)) _
  have hsigned : signed (n < 0) r.quanta = n * quantaOfOne := by
    rw [hexact]
    rcases lt_or_ge n 0 with hneg | hnonneg
    · rw [decide_eq_true hneg, signed_true, Nat.cast_mul, Int.ofNat_natAbs_of_nonpos hneg.le,
        Int.neg_mul, Int.neg_neg]
    · rw [decide_eq_false (Int.not_lt.2 hnonneg), signed_false, Nat.cast_mul,
        Int.natAbs_of_nonneg hnonneg]
  rw [show ofInt n = finite (n < 0) r by rw [ofInt, hr]; rfl, toRat?_finite, hsigned,
    Int.cast_mul, Int.cast_natCast, mul_div_cancel_right₀ _ quantaOfOne_pos.ne']

end Binary64
end FilterQuery
