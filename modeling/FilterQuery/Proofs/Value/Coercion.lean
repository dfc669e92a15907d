import FilterQuery.Proofs.Binary64.Nearest
import FilterQuery.Proofs.Binary64.Scan
import FilterQuery.Proofs.Date.Reading
import FilterQuery.Proofs.Value.Integer

/-!
# The literals of each type

A literal is a value of a type where it has the form that the type asks for and what it writes is in range.
It is then the value that it writes, or for a decimal the number nearest to that.

* `readDecimal_eq_ok_iff`, `readBoolean_eq_ok_iff` : decimals and truth values;
* `readDecimal_eq_ok_iff_scan` : decimals in two steps, a scan for the form and a reader of all numbers;
* `coerce_exact` : the literals of all types.
-/

set_option autoImplicit false

namespace FilterQuery

section Decimals

variable {cs : List Char} {x : Binary64}

theorem readDecimal_eq_ok_iff_ofFixed? :
    readDecimal cs = .ok x ↔ Binary64.ofFixed? cs = some x ∧ x.isFinite := by
  unfold readDecimal
  cases Binary64.ofFixed? cs with
  | none => simp
  | some y =>
    rw [Option.some.injEq]
    dsimp only
    split
    · next hfinite =>
      rw [Except.ok.injEq]
      constructor
      · rintro rfl
        exact ⟨rfl, hfinite⟩
      · exact And.left
    · next hfinite =>
      refine iff_of_false (by simp) ?_
      rintro ⟨rfl, hx⟩
      exact hfinite hx

/-- A decimal is the number nearest to what a sign and digits with at most one point write, with that sign,
where it is finite. -/
theorem readDecimal_eq_ok_iff : readDecimal cs = .ok x ↔
    (∃ negative n places, WritesDecimal cs negative n places ∧
      x.IsNearest (Binary64.withSign negative (n / 10 ^ places)) ∧ x.isNegative = negative) ∧
    x.isFinite := by
  have hvalue (n places : Nat) : (n : ℚ) * 10 ^ (-(places : ℤ)) = n / 10 ^ places := by
    rw [zpow_neg, zpow_natCast, div_eq_mul_inv]
  rw [readDecimal_eq_ok_iff_ofFixed?, Binary64.ofFixed?_eq_some_iff]
  simp only [Binary64.eq_ofDecimal_iff, hvalue]

/-- A scan that finds the form of decimals leaves them to the reader of all numbers, which reads each of
them. -/
theorem readDecimal_eq_ok_iff_scan : readDecimal cs = .ok x ↔
    isFixedPoint (splitSign cs).2 ∧ Binary64.ofText? cs = some x ∧ x.isFinite := by
  rw [readDecimal_eq_ok_iff_ofFixed?, Binary64.ofFixed?_eq_some_iff, isFixedPoint_splitSign_iff]
  constructor
  · rintro ⟨⟨negative, n, places, hwrites, rfl⟩, hfinite⟩
    exact ⟨⟨negative, n, places, hwrites⟩, Binary64.ofText?_of_writesDecimal hwrites, hfinite⟩
  · rintro ⟨⟨negative, n, places, hwrites⟩, htext, hfinite⟩
    rw [Binary64.ofText?_of_writesDecimal hwrites, Option.some.injEq] at htext
    exact ⟨⟨negative, n, places, hwrites, htext.symm⟩, hfinite⟩

end Decimals

theorem readBoolean_eq_ok_iff {cs : List Char} {b : Bool} :
    readBoolean cs = .ok b ↔ Unicode.AsciiAlike cs (Value.booleanText b) := by
  unfold readBoolean
  split
  · next htrue =>
    constructor
    · rintro ⟨⟩
      exact htrue
    · intro h
      cases b with
      | true => rfl
      | false => exact absurd (htrue.symm.trans h) (by decide)
  · next htrue =>
    split
    · next hfalse =>
      constructor
      · rintro ⟨⟩
        exact hfalse
      · intro h
        cases b with
        | true => exact absurd h htrue
        | false => rfl
    · next hfalse =>
      refine iff_of_false (by simp) fun h => ?_
      cases b with
      | true => exact htrue h
      | false => exact hfalse h

/-- The literals of each type, and the values they are. An integer is an optional sign and digits, and the
number they write is in range. A decimal is an optional sign and digits with at most one point, and the
number nearest to what they write is finite: the scan that looks for this form lets nothing through that
the reader of all numbers does not read. A truth value is its name in any case, a date is year, month and
day of the calendar joined by hyphens, and a string is every literal itself. -/
theorem coerce_exact (raw : String) (v : Value) :
    (coerce raw .integer = .ok v ↔
      ∃ n : Int64, v = .integer n ∧ WritesInteger raw.toList n.toInt) ∧
    (coerce raw .decimal = .ok v ↔ ∃ x, v = .decimal x ∧
      (∃ negative n places, WritesDecimal raw.toList negative n places ∧
        x.IsNearest (Binary64.withSign negative (n / 10 ^ places)) ∧ x.isNegative = negative) ∧
      x.isFinite) ∧
    (isFixedPoint (splitSign raw.toList).2 → ∃ x, Binary64.ofText? raw.toList = some x ∧
      (coerce raw .decimal = .ok v ↔ v = .decimal x ∧ x.isFinite)) ∧
    (coerce raw .boolean = .ok v ↔
      ∃ b, v = .boolean b ∧ Unicode.AsciiAlike raw.toList (Value.booleanText b)) ∧
    (coerce raw .date = .ok v ↔ ∃ d, v = .date d ∧ WritesDate raw.toList d) ∧
    coerce raw .string = .ok (.string raw) := by
  have hmap {α : Type} {read : Except CoercionError α} {make : α → Value} :
      read.map make = .ok v ↔ ∃ a, v = make a ∧ read = .ok a := by
    rw [map_eq_ok]
    exact exists_congr fun a => and_comm.trans (and_congr_left' eq_comm)
  refine ⟨?_, ?_, ?_, ?_, ?_, rfl⟩
  · simp only [coerce, hmap, mapError_eq_ok, readInteger_eq_ok_iff]
  · simp only [coerce, hmap, readDecimal_eq_ok_iff]
  · intro hscan
    obtain ⟨negative, n, places, hwrites⟩ := isFixedPoint_splitSign_iff.1 hscan
    have htext := Binary64.ofText?_of_writesDecimal hwrites
    refine ⟨_, htext, ?_⟩
    rw [coerce, hmap]
    constructor
    · rintro ⟨x, rfl, hread⟩
      obtain ⟨-, htext', hfinite⟩ := readDecimal_eq_ok_iff_scan.1 hread
      cases htext.symm.trans htext'
      exact ⟨rfl, hfinite⟩
    · rintro ⟨rfl, hfinite⟩
      exact ⟨_, rfl, readDecimal_eq_ok_iff_scan.2 ⟨hscan, htext, hfinite⟩⟩
  · simp only [coerce, hmap, readBoolean_eq_ok_iff]
  · simp only [coerce, hmap, mapError_eq_ok, Date.ofText?_eq_ok_iff]

end FilterQuery
