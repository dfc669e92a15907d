import FilterQuery.Proofs.Binary64.Rounding
import Mathlib.Algebra.Order.Field.Basic

/-!
# The nearest number

Digits are rounded to the number that is nearest to what they write. Distances are measured between rational
numbers, with an infinity in the place where the number after the largest one would be, so that numbers
too large for a finite one are no case of their own.

* `abs_sub_roundHalfEven` : a whole number is nearest to a quotient, and even where two are;
* `Magnitude.nearest_cases` : so is a magnitude, since any other one is a multiple of the grid's unit or
  lies below the quotients of this grid;
* `Magnitude.ofDecimal_eq_nearest` : the powers of ten that are not worked out make no difference;
* `Binary64.IsNearest`, `Binary64.eq_ofDecimal_iff` : what the nearest number is, and that it is the one
  which digits are rounded to.
-/

set_option autoImplicit false

namespace FilterQuery

/-! ### Whole numbers -/

/-- A quotient is rounded by a half at most, and by a half to an even number only. -/
theorem abs_sub_roundHalfEven (p : Nat) {q : Nat} (hq : 0 < q) :
    |(p : ℚ) / q - roundHalfEven p q| ≤ 1 / 2 ∧
      (|(p : ℚ) / q - roundHalfEven p q| = 1 / 2 → roundHalfEven p q % 2 = 0) := by
  have hbounds : 2 * (roundHalfEven p q * q) ≤ 2 * p + q ∧ 2 * p ≤ 2 * (roundHalfEven p q * q) + q ∧
      ((2 * (roundHalfEven p q * q) = 2 * p + q ∨ 2 * p = 2 * (roundHalfEven p q * q) + q) →
        roundHalfEven p q % 2 = 0) := by
    have hp := Nat.div_add_mod' p q
    have hmod := Nat.mod_lt p hq
    have hsucc : (p / q + 1) * q = p / q * q + q := Nat.succ_mul _ _
    unfold roundHalfEven
    dsimp only
    split
    · next h =>
      rw [Nat.compare_eq_lt] at h
      omega
    · next h =>
      rw [Nat.compare_eq_eq] at h
      rcases Nat.mod_two_eq_zero_or_one (p / q) with heven | hodd
      · rw [heven, Nat.add_zero]
        omega
      · rw [hodd, hsucc]
        omega
    · next h =>
      rw [Nat.compare_eq_gt] at h
      rw [hsucc]
      omega
  generalize roundHalfEven p q = k at hbounds
  obtain ⟨hle, hge, heven⟩ := hbounds
  have hq' : (0 : ℚ) < q := Nat.cast_pos.2 hq
  have hle' : 2 * ((k : ℚ) * q) ≤ 2 * p + q := by exact_mod_cast hle
  have hge' : 2 * (p : ℚ) ≤ 2 * (k * q) + q := by exact_mod_cast hge
  have hdist : |(p : ℚ) / q - k| = |(p : ℚ) - k * q| / q := by
    rw [← abs_of_pos hq', ← abs_div, abs_of_pos hq', sub_div, mul_div_cancel_right₀ _ hq'.ne']
  rw [hdist, div_le_iff₀ hq', div_eq_iff hq'.ne', abs_le]
  refine ⟨⟨by linarith, by linarith⟩, fun htie => heven ?_⟩
  rcases abs_choice ((p : ℚ) - k * q) with habs | habs
  · right
    have : 2 * (p : ℚ) = 2 * (k * q) + q := by linarith
    exact_mod_cast this
  · left
    have : 2 * ((k : ℚ) * q) = 2 * p + q := by linarith
    exact_mod_cast this

/-- Another whole number is further away, or as far and next to the one that is rounded to. -/
theorem lt_or_adjacent {b : ℚ} {r k : Nat} (h : |b - r| ≤ 1 / 2) (hne : k ≠ r) :
    |b - r| < |b - k| ∨ |b - r| = |b - k| ∧ |b - r| = 1 / 2 ∧ k % 2 ≠ r % 2 := by
  have hgap : (1 : ℚ) ≤ |(r : ℚ) - k| := by
    have hne' : (r : ℤ) - k ≠ 0 := by omega
    exact_mod_cast Int.one_le_abs hne'
  have htriangle : |(r : ℚ) - k| ≤ |b - r| + |b - k| := by
    rw [abs_sub_comm b r]
    exact abs_sub_le _ _ _
  rcases lt_or_ge |b - r| |b - k| with hlt | hle
  · exact .inl hlt
  · have hone : |(r : ℚ) - k| = 1 := by linarith
    have hone' : |(r : ℤ) - k| = 1 := by exact_mod_cast hone
    refine .inr ⟨by linarith, by linarith, ?_⟩
    rcases abs_choice ((r : ℤ) - k) with habs | habs <;> omega

/-- Distances in units. -/
theorem abs_sub_multiple (p q k : Nat) {u : Nat} (hu : 0 < u) :
    |(p : ℚ) / q - (k * u : Nat)| = |(p : ℚ) / (q * u : Nat) - k| * u := by
  have hu' : (0 : ℚ) < u := Nat.cast_pos.2 hu
  have hscale : (p : ℚ) / q - (k * u : Nat) = (p / (q * u : Nat) - k) * u := by
    rw [sub_mul, Nat.cast_mul, Nat.cast_mul, ← div_div, div_mul_cancel₀ _ hu'.ne']
  rw [hscale, abs_mul, abs_of_pos hu']

/-- Any other multiple of a unit is further away from a quotient than the one it is rounded to, or as far
and odd where that one is even. -/
theorem multiple_cases (p : Nat) {q u : Nat} (hq : 0 < q) (hu : 0 < u) (k : Nat) :
    k = roundHalfEven p (q * u) ∨
    |(p : ℚ) / q - (roundHalfEven p (q * u) * u : Nat)| < |(p : ℚ) / q - (k * u : Nat)| ∨
    |(p : ℚ) / q - (roundHalfEven p (q * u) * u : Nat)| = |(p : ℚ) / q - (k * u : Nat)| ∧
      roundHalfEven p (q * u) % 2 = 0 ∧ k % 2 = 1 := by
  have hu' : (0 : ℚ) < u := Nat.cast_pos.2 hu
  obtain ⟨hhalf, htie⟩ := abs_sub_roundHalfEven p (Nat.mul_pos hq hu)
  rw [abs_sub_multiple p q _ hu, abs_sub_multiple p q k hu, mul_lt_mul_iff_left₀ hu',
    mul_left_inj' hu'.ne']
  by_cases hsame : k = roundHalfEven p (q * u)
  · exact .inl hsame
  · rcases lt_or_adjacent hhalf hsame with hfar | ⟨heq, hone, hparity⟩
    · exact .inr (.inl hfar)
    · have heven := htie hone
      exact .inr (.inr ⟨heq, heven, by omega⟩)

/-- Of two places below a number the upper one is nearer. -/
theorem abs_sub_lt_of_lt {a b c : ℚ} (hc : c < b) (hb : b ≤ a) : |a - b| < |a - c| := by
  rw [abs_of_nonneg (sub_nonneg.2 hb), abs_of_nonneg (sub_nonneg.2 (hc.le.trans hb))]
  exact sub_lt_sub_left hc a

/-! ### Magnitudes -/

namespace Magnitude

/-- The number of quanta at which a magnitude stands; beyond the largest one, that at which the next
would stand. -/
def level : Option Magnitude → Nat
  | some m => m.quanta
  | none => Nat.pow 2 2098

/-- Whether the last bit of the significand is zero, as it would be beyond the largest magnitude. -/
def isEven : Option Magnitude → Bool
  | some m => m.significand % 2 = 0
  | none => true

variable {p q : Nat}

/-- The exponent has a name so that the power is not worked out. -/
theorem level_none {e : Nat} (he : 2098 = e) : level none = 2 ^ e := by
  unfold level
  rw [he]
  rfl

theorem level_none_eq_mul {e f : Nat} (h : 2098 = e + f) : level none = 2 ^ e * 2 ^ f := by
  rw [level_none h, Nat.pow_add]

theorem quanta_lt_level_none (m : Magnitude) : m.quanta < level none := by
  have hlevel : level none = 2 ^ 52 * 2 ^ 2046 := level_none_eq_mul rfl
  rw [hlevel]
  exact quanta_lt m (Nat.lt_succ_of_le m.exponent_le)

theorem quanta_injective {m m' : Magnitude} (h : m.quanta = m'.quanta) : m = m' := by
  have hzero {m m' : Magnitude} (h : m.quanta = m'.quanta) (hm : m.significand = 0) :
      m'.significand = 0 := by
    rw [quanta, hm, Nat.zero_mul] at h
    exact (Nat.mul_eq_zero.1 h.symm).resolve_right (Nat.two_pow_pos _).ne'
  by_cases hm : m.significand = 0
  · rw [eq_zero hm, eq_zero (hzero h hm)]
  · have hm' : m'.significand ≠ 0 := fun hm' => hm (hzero h.symm hm')
    have hsame := nearest_exact hm' Nat.one_pos
    rw [← h, nearest_exact hm Nat.one_pos] at hsame
    exact Option.some.inj hsame

theorem level_injective {x y : Option Magnitude} (h : level x = level y) : x = y := by
  cases x with
  | none =>
    cases y with
    | none => rfl
    | some m => exact absurd h.symm (quanta_lt_level_none m).ne
  | some m =>
    cases y with
    | none => exact absurd h (quanta_lt_level_none m).ne
    | some m' => rw [quanta_injective h]

/-- A level is a multiple of a grid's unit, an odd one only if it is odd itself, or lies below the
levels of which the unit is the last bit. -/
theorem exists_multiple (y : Option Magnitude) {e : Nat} (he : e ≤ 2045) :
    (∃ k, level y = k * 2 ^ e ∧ (k % 2 = 1 → isEven y = false)) ∨
      0 < e ∧ level y < 2 ^ 52 * 2 ^ e := by
  have hodd {n d : Nat} (h : n * 2 ^ d % 2 = 1) : d = 0 := by
    cases d with
    | zero => rfl
    | succ d =>
      rw [Nat.pow_succ, ← Nat.mul_assoc] at h
      omega
  cases y with
  | none =>
    refine .inl ⟨2 ^ (2098 - e), level_none_eq_mul (by omega), fun h => ?_⟩
    rw [← Nat.one_mul (2 ^ _)] at h
    have := hodd h
    omega
  | some m =>
    rcases Nat.lt_or_ge m.exponent e with hlt | hge
    · exact .inr ⟨by omega, quanta_lt m hlt⟩
    · refine .inl ⟨_, quanta_eq m hge, fun h => ?_⟩
      rw [hodd h, Nat.pow_zero, Nat.mul_one] at h
      simp [isEven, h]

theorem nearest_eq_none (hq : 0 < q) (h : level none * q ≤ p) : nearest p q = none := by
  have hlog : 2098 ≤ Nat.log2 (p / q) := by
    have hdiv : level none ≤ p / q := (Nat.le_div_iff_mul_le hq).2 h
    generalize he : (2098 : Nat) = e
    rw [level_none he] at hdiv
    have hne : p / q ≠ 0 := (Nat.lt_of_lt_of_le (Nat.two_pow_pos _) hdiv).ne'
    exact (Nat.le_log2 hne).2 hdiv
  have hgrid : 2045 < grid p q := by
    unfold grid
    omega
  rw [nearest_eq]
  split
  · exact dif_neg (by omega)
  · exact dif_neg (by omega)

theorem grid_le_of_lt (hq : 0 < q) (h : p < level none * q) : grid p q ≤ 2045 := by
  have hlog : Nat.log2 (p / q) < 2098 := by
    rcases Nat.eq_zero_or_pos (p / q) with hzero | hpos
    · rw [hzero, Nat.log2_zero]
      decide
    · generalize he : (2098 : Nat) = e
      rw [← Nat.div_lt_iff_lt_mul hq, level_none he] at h
      exact (Nat.log2_lt hpos.ne').2 h
  unfold grid
  omega

/-- Below the level beyond the largest magnitude, what a quotient is rounded to on its grid is a level. -/
theorem level_nearest (hq : 0 < q) (h : p < level none * q) :
    level (nearest p q) = roundHalfEven p (q * 2 ^ grid p q) * 2 ^ grid p q ∧
      (roundHalfEven p (q * 2 ^ grid p q) % 2 = 0 → isEven (nearest p q)) := by
  have hgrid := grid_le_of_lt hq h
  have hcanonical := grid_eq_zero_or_le hq (p := p)
  have hle := roundHalfEven_grid_le (p := p) hq
  rw [nearest_eq]
  generalize roundHalfEven p (q * 2 ^ grid p q) = s at hcanonical hle
  constructor
  · split
    · next hs =>
      rw [hs]
      rcases Nat.eq_or_lt_of_le hgrid with htop | hlt
      · rw [htop, ofParts?, dif_neg (by omega)]
        exact level_none_eq_mul rfl
      · rw [ofParts?, dif_pos ⟨by decide, by omega, .inr (by decide)⟩]
        calc 2 ^ 52 * 2 ^ (grid p q + 1) = 2 ^ 52 * (2 ^ grid p q * 2) :=
              congrArg (2 ^ 52 * ·) (Nat.pow_succ 2 (grid p q))
          _ = 2 ^ 53 * 2 ^ grid p q := by ring
    · next hs =>
      rw [ofParts?, dif_pos ⟨Nat.lt_of_le_of_ne hle hs, hgrid, hcanonical⟩]
      rfl
  · intro heven
    unfold ofParts?
    split_ifs
    · exact decide_eq_true (show 2 ^ 52 % 2 = 0 by decide)
    · rfl
    · exact decide_eq_true heven
    · rfl

/-- Any other level is further away from a quotient than the one it is rounded to, or as far and not even
where that one is even. -/
theorem nearest_cases (hq : 0 < q) (y : Option Magnitude) : y = nearest p q ∨
    |(p : ℚ) / q - level (nearest p q)| < |(p : ℚ) / q - level y| ∨
    |(p : ℚ) / q - level (nearest p q)| = |(p : ℚ) / q - level y| ∧
      isEven (nearest p q) ∧ isEven y = false := by
  have hbelow {n : Nat} (h : n * q ≤ p) : (n : ℚ) ≤ p / q := by
    rw [le_div_iff₀ (Nat.cast_pos.2 hq), ← Nat.cast_mul, Nat.cast_le]
    exact h
  rcases Nat.lt_or_ge p (level none * q) with hlt | hge
  · obtain ⟨hlevel, heven⟩ := level_nearest hq hlt
    have hmultiple := multiple_cases p hq (Nat.two_pow_pos (grid p q))
    rw [hlevel]
    rcases exists_multiple y (grid_le_of_lt hq hlt) with ⟨k, hk, hodd⟩ | ⟨hpos, hsmall⟩
    · rw [hk]
      rcases hmultiple k with hsame | hfar | ⟨heq, hzero, hone⟩
      · exact .inl (level_injective (by rw [hk, hlevel, hsame]))
      · exact .inr (.inl hfar)
      · exact .inr (.inr ⟨heq, heven hzero, hodd hone⟩)
    · -- the least multiple with all bits lies between the level and the quotient
      have hgrid := grid_le hq hpos
      rw [Nat.mul_comm q, ← Nat.mul_assoc] at hgrid
      have hfar := abs_sub_lt_of_lt (Nat.cast_lt.2 hsmall) (hbelow hgrid)
      refine .inr (.inl (lt_of_le_of_lt ?_ hfar))
      rcases hmultiple (2 ^ 52) with hsame | hlt | ⟨heq, -⟩
      · rw [← hsame]
      · exact hlt.le
      · exact heq.le
  · rw [nearest_eq_none hq hge]
    cases y with
    | none => exact .inl rfl
    | some m =>
      have hlt : (level (some m) : ℚ) < level none := Nat.cast_lt.2 (quanta_lt_level_none m)
      exact .inr (.inl (abs_sub_lt_of_lt hlt (hbelow hge)))

/-! ### Decimal digits -/

theorem nearest_eq_zero (h : 2 * p < q) : nearest p q = some zero := by
  have hgrid : Nat.log2 (p / q) - 52 = 0 := by
    rw [Nat.div_eq_of_lt (by omega)]
    decide
  have hround : roundHalfEven p (q * Nat.pow 2 0) = 0 := by
    have hunit : q * Nat.pow 2 0 = q := Nat.mul_one q
    rw [hunit, roundHalfEven, Nat.mod_eq_of_lt (by omega), Nat.compare_eq_lt.2 h,
      Nat.div_eq_of_lt (by omega)]
  rw [nearest, hgrid, hround]
  rfl

/-- The numbers for which no powers of ten are worked out are those for which these make no difference. -/
theorem ofDecimal_eq_nearest (digits : Nat) (exponent : Int) : ofDecimal digits exponent =
    nearest (digits * 10 ^ exponent.toNat * quantaOfOne) (10 ^ (-exponent).toNat) := by
  have hten (k : Nat) : 2 ^ (3 * k) ≤ 10 ^ k := by
    rw [Nat.pow_mul]
    exact Nat.pow_le_pow_left (by decide) k
  unfold ofDecimal
  split_ifs with hzero hlarge hsmall
  · rw [hzero, Nat.zero_mul, Nat.zero_mul, nearest_eq_zero (Nat.pow_pos (by decide))]
  · have hone : (-exponent).toNat = 0 := by omega
    have hpow : level none ≤ 10 ^ exponent.toNat * quantaOfOne := by
      obtain ⟨e, he⟩ : ∃ e, 1074 = e := ⟨_, rfl⟩
      obtain ⟨f, hf⟩ : ∃ f, 1024 = f := ⟨_, rfl⟩
      rw [level_none_eq_mul (show 2098 = f + e by omega), Binary64.quantaOfOne_eq he]
      refine Nat.mul_le_mul_right _ (Nat.le_trans (Nat.pow_le_pow_right (by decide) ?_) (hten _))
      omega
    rw [hone, Nat.pow_zero, nearest_eq_none Nat.one_pos]
    rw [Nat.mul_one, Nat.mul_assoc]
    exact Nat.le_trans hpow (Nat.le_mul_of_pos_left _ (Nat.pos_of_ne_zero hzero))
  · have hone : exponent.toNat = 0 := by omega
    rw [hone, Nat.pow_zero, Nat.mul_one, nearest_eq_zero]
    have hdigits : digits < 2 ^ (digits.log2 + 1) := Nat.lt_log2_self
    generalize he : (1074 : Nat) = e
    rw [Binary64.quantaOfOne_eq he]
    calc 2 * (digits * 2 ^ e) < 2 * (2 ^ (digits.log2 + 1) * 2 ^ e) := by
          apply Nat.mul_lt_mul_of_pos_left _ Nat.two_pos
          exact Nat.mul_lt_mul_of_pos_right hdigits (Nat.two_pow_pos e)
      _ = 2 ^ (digits.log2 + 2 + e) := by ring
      _ ≤ 2 ^ (3 * (-exponent).toNat) := Nat.pow_le_pow_right (by decide) (by omega)
      _ ≤ 10 ^ (-exponent).toNat := hten _
  · rfl

end Magnitude

/-! ### Numbers with signs -/

namespace Binary64

/-- The rational number with a minus sign if `negative`. -/
def withSign (negative : Bool) (v : ℚ) : ℚ := if negative then -v else v

/-- Whether the number has a minus sign. -/
def isNegative : Binary64 → Bool
  | nan => false
  | infinite negative => negative
  | finite negative _ => negative

/-- Whether the last bit of the significand is zero, as it would be beyond the largest number. -/
def isEven : Binary64 → Bool
  | finite _ m => m.significand % 2 = 0
  | _ => true

/-- The place of a number among the rational numbers; an infinity stands where the number after the
largest one would. -/
def place? (x : Binary64) : Option ℚ := x.rank.map fun (k : ℤ) => (k : ℚ) / quantaOfOne

/-- No number is nearer to `v` than `x`, and where one in another place is as near, `x` is even. -/
def IsNearest (v : ℚ) (x : Binary64) : Prop :=
  ∃ r, x.place? = some r ∧ ∀ y s, place? y = some s →
    |v - r| ≤ |v - s| ∧ (|v - r| = |v - s| → s = r ∨ x.isEven)

/-! ### The nearest number -/

section Nearest

variable {negative : Bool}

theorem withSign_natCast (negative : Bool) (n : Nat) :
    ((signed negative n : ℤ) : ℚ) = withSign negative n := by
  cases negative with
  | false => exact Int.cast_natCast n
  | true =>
    rw [signed_true, Int.cast_neg, Int.cast_natCast]
    rfl

theorem withSign_injective (negative : Bool) : Function.Injective (withSign negative) := by
  cases negative with
  | false => exact Function.injective_id
  | true => exact neg_injective

theorem abs_withSign_sub (negative : Bool) (v w : ℚ) :
    |withSign negative v - withSign negative w| = |v - w| := by
  cases negative with
  | false => rfl
  | true =>
    show |-v - -w| = |v - w|
    rw [neg_sub_neg, abs_sub_comm]

theorem abs_withSign_sub_not (negative : Bool) (v w : ℚ) :
    |withSign negative v - withSign (!negative) w| = |v + w| := by
  cases negative with
  | false =>
    show |v - -w| = |v + w|
    rw [sub_neg_eq_add]
  | true =>
    show |-v - w| = |v + w|
    rw [← neg_add', abs_neg]

theorem place?_ofMagnitude (negative : Bool) (m : Option Magnitude) :
    (ofMagnitude negative m).place? =
      some (withSign negative ((Magnitude.level m : ℚ) / quantaOfOne)) := by
  have hrank : (ofMagnitude negative m).rank = some (signed negative (Magnitude.level m)) := by
    cases m with
    | some m => rfl
    | none =>
      obtain ⟨e, he⟩ : ∃ e, 2098 = e := ⟨_, rfl⟩
      rw [Magnitude.level_none he, ofMagnitude, rank, he]
      rfl
  rw [place?, hrank, Option.map_some, withSign_natCast]
  cases negative with
  | false => rfl
  | true => exact congrArg some (neg_div _ _)

theorem exists_of_place? {x : Binary64} {r : ℚ} (h : x.place? = some r) :
    ∃ negative m, x = ofMagnitude negative m := by
  cases x with
  | nan => cases h
  | infinite negative => exact ⟨negative, none, rfl⟩
  | finite negative m => exact ⟨negative, some m, rfl⟩

theorem isNegative_ofMagnitude (negative : Bool) (m : Option Magnitude) :
    (ofMagnitude negative m).isNegative = negative := by
  cases m <;> rfl

theorem isEven_ofMagnitude (negative : Bool) (m : Option Magnitude) :
    (ofMagnitude negative m).isEven = Magnitude.isEven m := by
  cases m <;> rfl

variable {p q : Nat}

/-- No level is nearer to a quotient of quanta than the one it is rounded to. -/
theorem nearest_le (hq : 0 < q) (m : Option Magnitude) :
    |(p : ℚ) / q / quantaOfOne - Magnitude.level (Magnitude.nearest p q) / quantaOfOne| ≤
        |(p : ℚ) / q / quantaOfOne - Magnitude.level m / quantaOfOne| ∧
      (|(p : ℚ) / q / quantaOfOne - Magnitude.level (Magnitude.nearest p q) / quantaOfOne| =
          |(p : ℚ) / q / quantaOfOne - Magnitude.level m / quantaOfOne| →
        m = Magnitude.nearest p q ∨
          Magnitude.isEven (Magnitude.nearest p q) ∧ Magnitude.isEven m = false) := by
  have hscale (n : Nat) : |(p : ℚ) / q / quantaOfOne - n / quantaOfOne| =
      |(p : ℚ) / q - n| / quantaOfOne := by
    rw [← sub_div, abs_div, abs_of_pos quantaOfOne_pos]
  rw [hscale, hscale, div_le_div_iff_of_pos_right quantaOfOne_pos,
    div_left_inj' quantaOfOne_pos.ne']
  rcases Magnitude.nearest_cases (p := p) hq m with rfl | hlt | ⟨heq, heven⟩
  · exact ⟨le_rfl, fun _ => .inl rfl⟩
  · exact ⟨hlt.le, fun heq => absurd heq hlt.ne⟩
  · exact ⟨heq.le, fun _ => .inr heven⟩

theorem isNearest_ofMagnitude_iff (hq : 0 < q) (negative : Bool) (m : Option Magnitude) :
    (ofMagnitude negative m).IsNearest (withSign negative ((p : ℚ) / q / quantaOfOne)) ↔
      m = Magnitude.nearest p q := by
  have hnearest := nearest_le (p := p) hq
  constructor
  · rintro ⟨r, hr, hnear⟩
    rw [place?_ofMagnitude] at hr
    cases hr
    obtain ⟨hle, htie⟩ := hnear _ _ (place?_ofMagnitude negative (Magnitude.nearest p q))
    rw [abs_withSign_sub, abs_withSign_sub] at hle htie
    have heq := le_antisymm (hnearest m).1 hle
    rcases (hnearest m).2 heq with h | ⟨-, hodd⟩
    · exact h
    · rcases htie heq.symm with hsame | heven
      · have hplace := withSign_injective negative hsame
        rw [div_left_inj' quantaOfOne_pos.ne', Nat.cast_inj] at hplace
        exact (Magnitude.level_injective hplace).symm
      · rw [isEven_ofMagnitude, hodd] at heven
        cases heven
  · rintro rfl
    refine ⟨_, place?_ofMagnitude _ _, fun y s hy => ?_⟩
    obtain ⟨negative', m, rfl⟩ := exists_of_place? hy
    rw [place?_ofMagnitude] at hy
    cases hy
    rw [abs_withSign_sub, isEven_ofMagnitude]
    by_cases hsign : negative' = negative
    · rw [hsign, abs_withSign_sub]
      refine ⟨(hnearest m).1, fun htie => ((hnearest m).2 htie).imp ?_ And.left⟩
      exact fun h => by rw [h]
    · -- across zero, zero itself is nearer
      rw [Bool.eq_not.2 hsign, abs_withSign_sub_not]
      obtain ⟨hle, htie⟩ := hnearest (some .zero)
      have hzero : (Magnitude.level (some .zero) : ℚ) / quantaOfOne = 0 := by
        rw [show Magnitude.level (some .zero) = 0 from rfl, Nat.cast_zero, zero_div]
      have hv : (0 : ℚ) ≤ p / q / quantaOfOne :=
        div_nonneg (div_nonneg (Nat.cast_nonneg p) (Nat.cast_nonneg q)) quantaOfOne_pos.le
      have hm : (0 : ℚ) ≤ Magnitude.level m / quantaOfOne :=
        div_nonneg (Nat.cast_nonneg _) quantaOfOne_pos.le
      rw [hzero, sub_zero, abs_of_nonneg hv] at hle htie
      rw [abs_of_nonneg (add_nonneg hv hm)]
      refine ⟨by linarith, fun heq => ?_⟩
      have hm : (Magnitude.level m : ℚ) / quantaOfOne = 0 := by linarith
      rcases htie (by linarith) with hnone | ⟨heven, -⟩
      · rw [hm, ← hnone, hzero]
        left
        cases negative <;> simp [withSign]
      · exact .inr heven

/-- The number that decimal digits are rounded to is the one nearest to what they write, with their
sign. -/
theorem eq_ofDecimal_iff {digits : Nat} {exponent : ℤ} {x : Binary64} :
    x = ofDecimal negative digits exponent ↔
      x.IsNearest (withSign negative (digits * 10 ^ exponent)) ∧ x.isNegative = negative := by
  have hq : 0 < 10 ^ (-exponent).toNat := Nat.pow_pos (by decide)
  have hvalue : (digits : ℚ) * 10 ^ exponent =
      ((digits * 10 ^ exponent.toNat * quantaOfOne : Nat) : ℚ) /
        (10 ^ (-exponent).toNat : Nat) / quantaOfOne := by
    have hpow : (10 : ℚ) ^ exponent = 10 ^ exponent.toNat / 10 ^ (-exponent).toNat := by
      calc (10 : ℚ) ^ exponent = 10 ^ ((exponent.toNat : ℤ) - (-exponent).toNat) := by
            rw [Int.toNat_sub_toNat_neg]
        _ = 10 ^ exponent.toNat / 10 ^ (-exponent).toNat := by
            rw [zpow_sub₀ (by norm_num), zpow_natCast, zpow_natCast]
    rw [hpow, Nat.cast_mul, div_right_comm, mul_div_cancel_right₀ _ quantaOfOne_pos.ne', ← mul_div_assoc]
    push_cast
    rfl
  rw [hvalue, ofDecimal, Magnitude.ofDecimal_eq_nearest]
  constructor
  · rintro rfl
    exact ⟨(isNearest_ofMagnitude_iff hq negative _).2 rfl, isNegative_ofMagnitude _ _⟩
  · rintro ⟨hx, hsign⟩
    obtain ⟨r, hr, -⟩ := id hx
    obtain ⟨negative', m, rfl⟩ := exists_of_place? hr
    rw [isNegative_ofMagnitude] at hsign
    rw [hsign] at hx ⊢
    rw [(isNearest_ofMagnitude_iff hq negative m).1 hx]

end Nearest
end Binary64
end FilterQuery
