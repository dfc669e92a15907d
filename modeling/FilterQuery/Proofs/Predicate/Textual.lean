import FilterQuery.Proofs.Predicate.Comparable
import FilterQuery.Proofs.Predicate.WellFormed
import FilterQuery.Proofs.Value.Numeral

/-!
# Values that are stored as their texts

A record may hold a number or a truth value as a string. A condition reads the string as a value of its
own type, or compares it as it stands where it has strings itself, and comes to what it says of the
value.

* `Value.IsTextual` : the values that can be stored as their texts beside values of a type;
* `Value.IsTextual.order_text` : such a text is compared as the value;
* `Condition.holdsFor_text` : it satisfies the conditions that the value satisfies, and
  `Predicate.tests_text_as_value`, that this is so for the conditions of every query.
-/

set_option autoImplicit false

namespace FilterQuery

variable {type : ValueType}

namespace Value

/-- The values whose texts stand for them in comparisons with values of a type. A decimal does not become
an integer as a text, while it is compared with one as a number. -/
inductive IsTextual (type : ValueType) : Value → Prop
  | integer (n : Int64) : IsTextual type (.integer n)
  | decimal {x : Binary64} : x.isFinite → type ≠ .integer → IsTextual type (.decimal x)
  | boolean (b : Bool) : IsTextual type (.boolean b)

/-- The value that a text is read as if it is the text of a number or of a truth value. -/
def readAs (type : ValueType) : Value → Option Value
  | integer n =>
    match type with
    | .integer => some (integer n)
    | .decimal => some (decimal (.ofInt n.toInt))
    | _ => none
  | v => if v.type? = some type then some v else none

namespace IsTextual

variable {v w : Value}

theorem ne_string (h : v.IsTextual type) (s : String) : v ≠ .string s := by
  rintro rfl
  cases h

theorem isNull_eq (h : v.IsTextual type) : v.isNull = false := by
  cases h <;> rfl

/-- The text is in lowercase. -/
theorem isLower (h : v.IsTextual type) : ∀ c ∈ v.text, Unicode.IsLower c := by
  have hupper : ∀ c ∈ v.text, c.isUpper = false := by
    cases h with
    | integer n => exact (isNumeral_integerText n).isUpper
    | decimal hx _ => exact (isNumeral_plainText hx).isUpper
    | boolean b =>
      have hall : (Value.boolean b).text.all fun c => !c.isUpper := by cases b <;> decide
      intro c hc
      simpa using List.all_eq_true.1 hall c hc
  intro c hc
  exact Unicode.isLower_of_ascii (toNat_lt_of_mem_text h.ne_string hc) (hupper c hc)

theorem lowercased_text (h : v.IsTextual type) :
    Condition.lowercased (String.ofList v.text) = String.ofList v.text := by
  rw [Condition.lowercased, String.toList_ofList, Unicode.lowercase,
    Unicode.lowercaseAfter_of_isLower h.isLower]

theorem coerce_booleanText (b : Bool) (hs : type ≠ .string) (hb : type ≠ .boolean) :
    (coerce (String.ofList (booleanText b)) type).toOption = none := by
  cases type with
  | string => exact absurd rfl hs
  | boolean => exact absurd rfl hb
  | integer | decimal | date => cases b <;> decide

theorem coerce_text_of_type (h : v.IsTextual type) (ht : v.type? = some type) :
    coerce (String.ofList v.text) type = .ok v := by
  rw [text_of_ne_string h.ne_string]
  apply coerce_literal ht
  rintro x rfl
  cases h with
  | decimal hx _ => exact hx

/-- The text of a value is read as the value itself, or as the decimal that an integer is rounded to. -/
theorem coerce_text (h : v.IsTextual type) (hs : type ≠ .string) :
    (coerce (String.ofList v.text) type).toOption = v.readAs type := by
  have hsame (ht : v.type? = some type) :
      (coerce (String.ofList v.text) type).toOption = some v := by
    rw [h.coerce_text_of_type ht]
    rfl
  cases h with
  | integer n =>
    have hnumeral := isNumeral_integerText n
    cases type with
    | string => exact absurd rfl hs
    | integer => exact hsame rfl
    | decimal => exact congrArg Except.toOption (hnumeral.coerce_decimal (isFinite_ofInt n))
    | date => exact hnumeral.coerce_date
    | boolean => exact hnumeral.coerce_boolean
  | decimal hx hne =>
    have hnumeral := isNumeral_plainText hx
    cases type with
    | string => exact absurd rfl hs
    | integer => exact absurd rfl hne
    | decimal => exact hsame rfl
    | date => exact hnumeral.coerce_date
    | boolean => exact hnumeral.coerce_boolean
  | boolean b =>
    cases type with
    | string => exact absurd rfl hs
    | boolean => exact hsame rfl
    | integer | decimal | date => exact coerce_booleanText b (by decide) (by decide)

theorem order_integer_decimal (n : Int64) (y : Binary64) :
    (Value.integer n).order (.decimal y) = (Binary64.ofInt n.toInt).order y := by
  unfold order
  dsimp only
  rw [orderAlike]

/-- What the text is read as is compared as the value. -/
theorem orderAlike_readAs (h : v.IsTextual type) (hw : w.type? = some type) (hs : type ≠ .string) :
    (v.readAs type).bind (·.orderAlike w) = v.order w := by
  cases w with
  | null => cases hw
  | string s =>
    cases hw
    exact absurd rfl hs
  | integer m =>
    cases hw
    cases h with
    | integer | boolean => rfl
    | decimal _ hne => exact absurd rfl hne
  | decimal y =>
    cases hw
    cases h with
    | integer n => rw [order_integer_decimal, readAs, Option.bind_some, orderAlike]
    | decimal | boolean => rfl
  | date | boolean =>
    cases hw
    cases h <;> rfl

/-- The text of a value is compared as the value. -/
theorem order_text (h : v.IsTextual type) (hw : w.type? = some type) :
    (string (String.ofList v.text)).order w = v.order w := by
  by_cases hs : type = .string
  · subst hs
    cases w <;> cases hw
    cases h <;> rfl
  · rw [order_string _ hw hs, h.coerce_text hs, h.orderAlike_readAs hw hs]

end IsTextual

end Value

namespace Condition

variable {c : Condition} {v : Value}

/-- A condition does not tell values apart that are ordered alike beside its own values and are both like
its pattern or both unlike it. -/
theorem holdsForValue_congr {x y : Value} (horder : ∀ w ∈ c.values, c.order x w = c.order y w)
    (hlike : c.isLike x = c.isLike y) : c.holdsForValue x = c.holdsForValue y := by
  have hfirst : c.values.head?.bind (c.order x) = c.values.head?.bind (c.order y) := by
    cases hvalues : c.values with
    | nil => rfl
    | cons w ws => exact horder w (hvalues ▸ List.mem_cons_self)
  have hany : (c.values.any fun w => c.order x w = some .eq) =
      c.values.any fun w => c.order y w = some .eq := by
    rw [Bool.eq_iff_iff, List.any_eq_true, List.any_eq_true]
    exact exists_congr fun w => and_congr_right fun hw => by rw [horder w hw]
  have hall : (c.values.all fun w => isUnequal (c.order x w)) =
      c.values.all fun w => isUnequal (c.order y w) := by
    rw [Bool.eq_iff_iff, List.all_eq_true, List.all_eq_true]
    exact forall₂_congr fun w hw => by rw [horder w hw]
  have hbetween : c.isBetween? x = c.isBetween? y := by
    unfold isBetween?
    split
    · next low high hvalues =>
      rw [horder low (by simp [hvalues]), horder high (by simp [hvalues])]
    · rfl
  unfold holdsForValue
  dsimp only
  rw [hfirst, hany, hall, hbetween, hlike]

theorem order_text (h : v.IsTextual type) {w : Value} (hw : w.type? = some type) :
    c.order (.string (String.ofList v.text)) w = c.order v w := by
  have hfolded : v.folded c.foldCase = v := by cases h <;> rfl
  have htext : (Value.string (String.ofList v.text)).folded c.foldCase =
      .string (String.ofList v.text) := by
    rw [Value.folded, h.lowercased_text, ite_self]
  rw [c.order_eq, c.order_eq, hfolded, htext, h.order_text hw]

/-- The text of a value satisfies the conditions that the value satisfies. -/
theorem holdsFor_text (h : v.IsTextual c.type) (hvalues : ∀ w ∈ c.values, w.type? = some c.type) :
    c.holdsFor (.string (String.ofList v.text)) = c.holdsFor v := by
  have hlike : c.isLike (.string (String.ofList v.text)) = c.isLike v := by
    unfold isLike
    cases c.pattern with
    | none => rfl
    | some pattern =>
      cases h <;> simp only [String.toList_ofList]
  have hvalue := holdsForValue_congr (fun w hw => order_text h (hvalues w hw)) hlike
  rw [holdsFor, holdsFor, h.isNull_eq, hvalue]
  rfl

end Condition

namespace Predicate

variable {schema : Schema} {root : String} {options : Options}

/-- Integers and truth values satisfy the conditions of a query as their texts do, and so do finite
decimals, but for conditions on integers: the text of a decimal with a fraction cannot be compared with
these. An integer is rounded to the decimal that its digits are read as. -/
theorem tests_text_as_value [PatternSize] {text : String} {p : Predicate}
    (h : ofText text schema root options = .ok p)
    {c : Condition} (hc : c ∈ p.atoms) :
    (∀ n : Int64, c.holdsFor (.string (String.ofList (Value.integer n).text)) =
      c.holdsFor (.integer n)) ∧
    (∀ b : Bool, c.holdsFor (.string (String.ofList (Value.boolean b).text)) =
      c.holdsFor (.boolean b)) ∧
    (c.type ≠ .integer → ∀ x : Binary64, x.isFinite →
      c.holdsFor (.string (String.ofList (Value.decimal x).text)) = c.holdsFor (.decimal x)) ∧
    ∀ n : Int64, readDecimal (Value.integer n).text = .ok (.ofInt n.toInt) := by
  obtain ⟨a, ha, hw, hs⟩ := exists_placed h hc
  have hvalues : ∀ w ∈ c.values, w.type? = some c.type := by
    intro w hw'
    exact ((Placed.isWellFormed_of_compile ha hw hs).typed w hw').1
  refine ⟨?_, ?_, ?_, readDecimal_integerText⟩
  · intro n
    exact Condition.holdsFor_text (.integer n) hvalues
  · intro b
    exact Condition.holdsFor_text (.boolean b) hvalues
  · intro hne x hx
    exact Condition.holdsFor_text (.decimal hx hne) hvalues

theorem tests_text_as_value_like : ∃ p, ofText "a=like=-*" smallSchema "T" {} = .ok p ∧ ∃ c ∈ p.atoms,
    c.type ≠ .integer ∧ (Binary64.finite true .zero).isFinite ∧
    c.holdsFor (.string "-0") = c.holdsFor (.decimal (.finite true .zero)) ∧
    c.holdsFor (.decimal (.finite true .zero)) ∧
    c.holdsFor (.string "-9223372036854775808") = c.holdsFor (.integer Int64.minValue) ∧
    c.holdsFor (.string "true") = c.holdsFor (.boolean true) := by
  have h : (ofText "a=like=-*" smallSchema "T" {}).toOption.any fun p => p.atoms.any fun c =>
      c.type ≠ .integer ∧ c.holdsFor (.decimal (.finite true .zero)) := by
    decide +kernel
  cases hp : ofText "a=like=-*" smallSchema "T" {} with
  | error e =>
    rw [hp] at h
    cases h
  | ok p =>
    rw [hp] at h
    obtain ⟨c, hc, hcond⟩ := List.any_eq_true.1 h
    obtain ⟨hne, hholds⟩ := of_decide_eq_true hcond
    have hzero : String.ofList (Value.decimal (.finite true .zero)).text = "-0" := by
      decide +kernel
    have hleast : String.ofList (Value.integer Int64.minValue).text = "-9223372036854775808" := by
      decide +kernel
    obtain ⟨hinteger, hboolean, hdecimal, -⟩ := tests_text_as_value hp hc
    have hfinite : (Binary64.finite true .zero).isFinite := rfl
    refine ⟨p, rfl, c, hc, hne, hfinite, ?_, hholds, ?_, hboolean true⟩
    · rw [← hzero, hdecimal hne _ hfinite]
    · rw [← hleast, hinteger]

end Predicate

end FilterQuery
