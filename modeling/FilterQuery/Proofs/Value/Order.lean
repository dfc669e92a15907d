import FilterQuery.Predicate
import FilterQuery.Proofs.Binary64.Rounding
import FilterQuery.Proofs.Value.Integer

/-!
# The order of numbers

An integer is compared with a decimal as the decimal that it is rounded to. This is their numerical
order, except that a decimal is taken for every integer that is rounded to it.

* `Value.toRat?` : the rational number that an integer or a decimal is;
* `Value.IsTakenFor` : the pairs that are taken to be equal and are not;
* `Value.order_numbers` : when numbers are compared by what they are, and what follows for ordering
  them and for a test for equality;
* `Value.not_isTakenFor` : integers of at most 53 bits are never taken for another number.
-/

set_option autoImplicit false

namespace FilterQuery

/-- A number differs from an integer, yet it is what the integer is rounded to. -/
def Binary64.IsRoundingOf (x : Binary64) (n : ℤ) : Prop :=
  (ofInt n).toRat? = x.toRat? ∧ x.toRat? ≠ some (n : ℚ)

namespace Value

/-- The rational number that an integer or a finite decimal is. -/
def toRat? : Value → Option ℚ
  | integer n => some n.toInt
  | decimal x => x.toRat?
  | _ => none

/-- One of two values is an integer, and the other is another number, which it is rounded to. -/
def IsTakenFor : Value → Value → Prop
  | integer n, decimal x => x.IsRoundingOf n.toInt
  | decimal x, integer n => x.IsRoundingOf n.toInt
  | _, _ => False

/-- A value is compared as less than another or as equal to it. -/
def IsAtMost (v w : Value) : Prop := v.order w = some .lt ∨ v.order w = some .eq

variable {u v w : Value} {p q : ℚ}

/-! ### An integer and a decimal -/

/-- The order of a decimal and the decimal that an integer is rounded to. -/
theorem order_ofInt (n : Int64) {x : Binary64} (hx : x.toRat? = some q) :
    (x.IsRoundingOf n.toInt → (Binary64.ofInt n.toInt).order x = some .eq) ∧
      (¬ x.IsRoundingOf n.toInt →
        (Binary64.ofInt n.toInt).order x = some (compare (n.toInt : ℚ) q)) := by
  obtain ⟨r, hr, hsides⟩ := Binary64.exists_toRat?_ofInt (natAbs_toInt_le n)
  obtain ⟨hbelow, habove⟩ := hsides x q hx
  have hrounding : x.IsRoundingOf n.toInt ↔ r = q ∧ q ≠ n.toInt := by
    rw [Binary64.IsRoundingOf, hr, hx, Option.some_inj, Ne, Option.some_inj]
  rw [hrounding, Binary64.order_eq_compare hr hx, Option.some_inj, Option.some_inj]
  constructor
  · rintro ⟨heq, -⟩
    exact compare_eq_iff_eq.2 heq
  · intro hnot
    rcases lt_trichotomy (n.toInt : ℚ) q with hlt | heq | hgt
    · have hne : r ≠ q := fun heq => hnot ⟨heq, hlt.ne'⟩
      rw [compare_lt_iff_lt.2 hlt, compare_lt_iff_lt.2 (lt_of_le_of_ne (habove hlt.le) hne)]
    · rw [compare_eq_iff_eq.2 heq, compare_eq_iff_eq.2 (le_antisymm (habove heq.le) (hbelow heq.ge))]
    · have hne : q ≠ r := fun heq => hnot ⟨heq.symm, hgt.ne⟩
      rw [compare_gt_iff_gt.2 hgt, compare_gt_iff_gt.2 (lt_of_le_of_ne (hbelow hgt.le) hne)]

/-! ### Two numbers -/

/-- A number is an integer or a finite decimal. -/
theorem cases_of_toRat? (h : v.toRat? = some p) :
    (∃ n : Int64, v = integer n ∧ p = n.toInt) ∨ ∃ x, v = decimal x ∧ x.toRat? = some p := by
  cases v with
  | integer n => exact .inl ⟨n, rfl, (Option.some.inj h).symm⟩
  | decimal x => exact .inr ⟨x, rfl, h⟩
  | string | date | boolean | null => cases h

theorem order_swap (x y : Binary64) : y.order x = (x.order y).map Ordering.swap := by
  unfold Binary64.order
  cases x.rank <;> cases y.rank
  case some.some => exact congrArg some Std.OrientedCmp.eq_swap
  all_goals rfl

/-- Comparing numbers the other way reverses their order. -/
theorem order_reverse (hv : v.toRat? = some p) (hw : w.toRat? = some q) :
    w.order v = (v.order w).map Ordering.swap := by
  rcases cases_of_toRat? hv with ⟨m, rfl, -⟩ | ⟨x, rfl, -⟩ <;>
    rcases cases_of_toRat? hw with ⟨n, rfl, -⟩ | ⟨y, rfl, -⟩
  · exact congrArg some Std.OrientedCmp.eq_swap
  all_goals exact order_swap _ _

/-- Numbers are compared by what they are, unless one is taken for the other. -/
theorem order_eq_compare (hv : v.toRat? = some p) (hw : w.toRat? = some q) :
    (v.IsTakenFor w → v.order w = some .eq) ∧
      (¬ v.IsTakenFor w → v.order w = some (compare p q)) := by
  rcases cases_of_toRat? hv with ⟨m, rfl, rfl⟩ | ⟨x, rfl, hx⟩ <;>
    rcases cases_of_toRat? hw with ⟨n, rfl, rfl⟩ | ⟨y, rfl, hy⟩
  · have hcompare := (Int.cast_strictMono (R := ℚ)).cmp_map_eq m.toInt n.toInt
    rw [cmp_eq_compare, cmp_eq_compare] at hcompare
    rw [hcompare]
    exact ⟨nofun, fun _ => rfl⟩
  · exact order_ofInt m hy
  · obtain ⟨htaken, hnot⟩ := order_ofInt n hx
    have horder : (integer n).order (decimal x) = (Binary64.ofInt n.toInt).order x := rfl
    rw [order_reverse hw hv, horder]
    refine ⟨fun h => by rw [htaken h]; rfl, fun h => ?_⟩
    rw [hnot h]
    exact congrArg some Std.OrientedCmp.eq_swap.symm
  · rw [show (decimal x).order (decimal y) = x.order y from rfl, Binary64.order_eq_compare hx hy]
    exact ⟨nofun, fun _ => rfl⟩

theorem IsTakenFor.symm (h : v.IsTakenFor w) : w.IsTakenFor v := by
  cases v <;> cases w <;> exact h

/-- Numbers that are taken for each other are not the same. -/
theorem IsTakenFor.ne (hv : v.toRat? = some p) (hw : w.toRat? = some q) (h : v.IsTakenFor w) :
    p ≠ q := by
  rcases cases_of_toRat? hv with ⟨m, rfl, rfl⟩ | ⟨x, rfl, hx⟩ <;>
    rcases cases_of_toRat? hw with ⟨n, rfl, rfl⟩ | ⟨y, rfl, hy⟩
  · exact h.elim
  · rintro rfl
    exact h.2 hy
  · rintro rfl
    exact h.2 hx
  · exact h.elim

/-- Integers of at most 53 bits are not taken for another number. -/
theorem not_isTakenFor (n : Int64) (h : n.toInt.natAbs < 2 ^ 53) (v : Value) :
    ¬ (integer n).IsTakenFor v := by
  cases v with
  | decimal x =>
    rintro ⟨hround, hne⟩
    rw [Binary64.toRat?_ofInt h] at hround
    exact hne hround.symm
  | string | integer | date | boolean | null => exact not_false

theorem isAtMost_iff (hv : v.toRat? = some p) (hw : w.toRat? = some q) (h : ¬ v.IsTakenFor w) :
    v.IsAtMost w ↔ p ≤ q := by
  rw [IsAtMost, (order_eq_compare hv hw).2 h, Option.some_inj, Option.some_inj, compare_lt_iff_lt,
    compare_eq_iff_eq, le_iff_lt_or_eq]

theorem order_eq_iff (hv : v.toRat? = some p) (hw : w.toRat? = some q) (h : ¬ v.IsTakenFor w) :
    v.order w = some .eq ↔ p = q := by
  rw [(order_eq_compare hv hw).2 h, Option.some_inj, compare_eq_iff_eq]

theorem isAtMost_total (hv : v.toRat? = some p) (hw : w.toRat? = some q) :
    v.IsAtMost w ∨ w.IsAtMost v := by
  by_cases h : v.IsTakenFor w
  · exact .inl (.inr ((order_eq_compare hv hw).1 h))
  · rcases le_total p q with hle | hge
    · exact .inl ((isAtMost_iff hv hw h).2 hle)
    · exact .inr ((isAtMost_iff hw hv fun h' => h h'.symm).2 hge)

/-- A test for equality with a number accepts this number and those that it is taken for. -/
theorem holdsFor_equal {c : Condition} (hc : c.operator = .equal) (hvalues : c.values = [w])
    (hv : v.toRat? = some p) (hw : w.toRat? = some q) :
    c.holdsFor v ↔ p = q ∨ v.IsTakenFor w := by
  have hholds : c.holdsFor v ↔ v.order w = some .eq := by
    rcases cases_of_toRat? hv with ⟨n, rfl, -⟩ | ⟨x, rfl, -⟩ <;>
      simp [Condition.holdsFor, Condition.holdsForValue, Condition.order, isNull, hc, hvalues]
  rw [hholds]
  by_cases h : v.IsTakenFor w
  · exact iff_of_true ((order_eq_compare hv hw).1 h) (.inr h)
  · rw [order_eq_iff hv hw h, or_iff_left h]

/-! ### All numbers -/

/-- Numbers are compared in both ways alike, and always. They are compared by what they are exactly if
neither is taken for the other, and then their order is transitive, as is being equal; numbers that are
taken for each other are compared as equal. -/
theorem order_numbers {o : ℚ} (hu : u.toRat? = some o) (hv : v.toRat? = some p)
    (hw : w.toRat? = some q) :
    (w.order v = (v.order w).map Ordering.swap ∧ (v.IsAtMost w ∨ w.IsAtMost v)) ∧
      (v.order w = some (compare p q) ↔ ¬ v.IsTakenFor w) ∧
      (v.IsTakenFor w → p ≠ q ∧ v.order w = some .eq) ∧
      (¬ u.IsTakenFor v → ¬ v.IsTakenFor w → ¬ u.IsTakenFor w →
        (u.IsAtMost v → v.IsAtMost w → u.IsAtMost w) ∧
          (u.order v = some .eq → v.order w = some .eq → u.order w = some .eq)) ∧
      ∀ c : Condition, c.operator = .equal → c.values = [w] →
        (c.holdsFor v ↔ p = q ∨ v.IsTakenFor w) := by
  obtain ⟨htaken, hnot⟩ := order_eq_compare hv hw
  refine ⟨⟨order_reverse hv hw, isAtMost_total hv hw⟩, ⟨fun horder h => ?_, hnot⟩,
    fun h => ⟨h.ne hv hw, htaken h⟩, fun huv hvw huw => ?_,
    fun c hc hvalues => holdsFor_equal hc hvalues hv hw⟩
  · rw [htaken h, Option.some_inj] at horder
    exact h.ne hv hw (compare_eq_iff_eq.1 horder.symm)
  · rw [isAtMost_iff hu hv huv, isAtMost_iff hv hw hvw, isAtMost_iff hu hw huw,
      order_eq_iff hu hv huv, order_eq_iff hv hw hvw, order_eq_iff hu hw huw]
    exact ⟨le_trans, Eq.trans⟩

/-- One and a half is below two and does not equal it, and one is at most two since it is at most that
much. -/
theorem order_one_two :
    (decimal (.ofDecimal false 15 (-1))).order (integer 2) = some (compare (3 / 2 : ℚ) 2) ∧
      (integer 1).IsAtMost (integer 2) ∧
      ∀ c : Condition, c.operator = .equal → c.values = [integer 2] →
        ¬ c.holdsFor (decimal (.ofDecimal false 15 (-1))) := by
  have hread : Binary64.ofDecimal false 15 (-1) =
      .finite false ⟨0x18000000000000, 1022, by decide, by decide, by decide⟩ := by decide +kernel
  have hone : (integer 1).toRat? = some (1 : ℚ) := congrArg some Int.cast_one
  have hmiddle : (decimal (.ofDecimal false 15 (-1))).toRat? = some (3 / 2 : ℚ) := by
    rw [hread]
    norm_num [toRat?, Binary64.toRat?, Binary64.signed]
  have htwo : (integer 2).toRat? = some (2 : ℚ) := congrArg some (Int.cast_ofNat 2)
  have hbelow := not_isTakenFor 1 (by decide) (decimal (.ofDecimal false 15 (-1)))
  have habove : ¬ (decimal (.ofDecimal false 15 (-1))).IsTakenFor (integer 2) :=
    fun h => not_isTakenFor 2 (by decide) _ h.symm
  obtain ⟨-, hcompare, -, htrans, hequal⟩ := order_numbers hone hmiddle htwo
  obtain ⟨hle, -⟩ := htrans hbelow habove (not_isTakenFor 1 (by decide) _)
  refine ⟨hcompare.2 habove, ?_, ?_⟩
  · exact hle (.inl (by decide +kernel)) (.inl (by decide +kernel))
  · intro c hc hvalues hholds
    exact ((hequal c hc hvalues).1 hholds).elim (by norm_num) habove

/-- Two integers, and a decimal that is the one and is taken for the other. -/
theorem order_rounded :
    (integer 9007199254740993).toRat? = some 9007199254740993 ∧
      (decimal (.ofDecimal false 9007199254740992 0)).toRat? = some 9007199254740992 ∧
      (integer 9007199254740993).order (decimal (.ofDecimal false 9007199254740992 0)) = some .eq ∧
      (decimal (.ofDecimal false 9007199254740992 0)).order (integer 9007199254740992) = some .eq ∧
      (integer 9007199254740993).order (integer 9007199254740992) = some .gt := by
  have hread : Binary64.ofDecimal false 9007199254740992 0 =
      .finite false ⟨0x10000000000000, 1075, by decide, by decide, by decide⟩ := by decide +kernel
  have hint : Int64.toInt 9007199254740993 = 9007199254740993 := by decide
  refine ⟨?_, ?_, by decide +kernel, by decide +kernel, by decide +kernel⟩
  · rw [toRat?, hint]
    exact congrArg some (Int.cast_ofNat 9007199254740993)
  · rw [hread]
    norm_num [toRat?, Binary64.toRat?, Binary64.signed]

end Value
end FilterQuery
