import FilterQuery.Proofs.Predicate.Comparable
import FilterQuery.Proofs.Predicate.Places
import FilterQuery.Proofs.Predicate.WellFormed

/-!
# Operators and their negations

An operator and its negation are tested apart from each other. On one value they have opposite answers,
or neither holds since there is nothing to tell: the value is null, or it cannot be compared.

* `Operator.negated?`, `Placed.Negates` : what the negation of an operator and of a comparison is;
* `Placed.compile_negated` : it is compiled to the same condition with the operator's negation;
* `Condition.verdict?` : what there is to tell of a value, which both of them report;
* `Placed.negation_decides` : when one of them holds.
-/

set_option autoImplicit false

namespace FilterQuery

/-! ### Negated comparisons -/

namespace Operator

/-- The operator that negates another one. -/
def negated? : Operator → Option Operator
  | equal => some notEqual
  | oneOf => some noneOf
  | between => some notBetween
  | like => some notLike
  | isNull => some notNull
  | _ => none

variable {op neg : Operator}

/-- Both belong to the same families. -/
theorem families_of_negated? (h : op.negated? = some neg) :
    neg.isNullCheck = op.isNullCheck ∧ neg.isPattern = op.isPattern ∧
      neg.isOrdering = op.isOrdering ∧ neg.foldsCase = op.foldsCase := by
  cases op <;> cases h <;> decide

theorem families_of_compared (h : op.negated? = some neg) (hnull : op ≠ .isNull)
    (hlike : op ≠ .like) : op.isNullCheck = false ∧ op.isPattern = false := by
  cases op <;> cases h <;> simp_all [isNullCheck, isPattern]

theorem supports_of_negated? (h : op.negated? = some neg) (type : ValueType) :
    neg.supports type = op.supports type := by
  obtain ⟨-, hpattern, hordering, -⟩ := families_of_negated? h
  unfold supports
  rw [hpattern, hordering]

end Operator

namespace Placed

variable {schema : Schema} {root : String} {options : Options} {n p : Placed}

/-- A comparison of the same attribute with the same arguments, by the operator that negates the other
one. It may stand elsewhere. -/
structure Negates (n p : Placed) : Prop where
  operator : p.operator.negated? = some n.operator
  selector : n.selector = p.selector
  arguments : n.arguments = p.arguments
  spans : n.argumentSpans.length = p.argumentSpans.length

/-- There are as many arguments as the operator takes. -/
structure IsComplete (p : Placed) : Prop where
  spans : p.argumentSpans.length = p.arguments.length
  ne_nil : p.arguments ≠ []
  pair : p.operator.arity = .pair → p.arguments.length = 2

/-- The comparisons of a query have them. -/
theorem isComplete_of_ofText {text : String} {q : Query} (h : Query.ofText text = .ok q) :
    ∀ p ∈ q.atoms, p.IsComplete := by
  intro p hp
  have hw := Grammar.isWritable_of_ofText h p hp
  exact ⟨Grammar.length_spans_of_ofText h p hp, hw.ne_nil, hw.pair⟩

/-- What arguments are read as does not depend on where they stand. -/
theorem values_of_spans {type : ValueType} {foldCase : Bool} {arguments : List String}
    {spans spans' : List Span} {values : List Value} (hlength : spans'.length = spans.length)
    (h : (arguments.zip spans).map (fun (a, span) => value type foldCase a span) = values.map .ok) :
    (arguments.zip spans').map (fun (a, span) => value type foldCase a span) = values.map .ok := by
  rw [← mapM_eq_ok, ← mapError_eq_ok (f := CompileError.unplaced), values_unplaced] at h ⊢
  rw [hlength, h]

/-- A star makes the one pattern operator of an equality, and the other one of its negation. -/
theorem effectiveOperator_negated (h : n.Negates p) (options : Options) (type : ValueType) :
    (p.effectiveOperator options type).negated? = some (n.effectiveOperator options type) := by
  have hop := h.operator
  unfold effectiveOperator
  rw [h.arguments]
  dsimp only
  generalize (options.wildcardEquality && type = .string && p.arguments.any fun a =>
    star ∈ a.toList) = wildcard
  generalize p.operator = op at hop
  generalize n.operator = neg at hop
  cases wildcard <;> cases op <;> cases hop <;> rfl

theorem isCondition_negated [PatternSize] {op neg : Operator} {type : ValueType} {foldCase : Bool}
    {c : Condition}
    (h : n.Negates p) (hop : op.negated? = some neg) (hc : IsCondition p op type foldCase c) :
    IsCondition n neg type foldCase { c with operator := neg } := by
  obtain ⟨hnull, hpattern, -, -⟩ := Operator.families_of_negated? hop
  cases hc with
  | null hcheck =>
    rw [← h.selector]
    exact .null (hnull.trans hcheck)
  | pattern hcheck hfamily harguments hof =>
    rw [← h.selector]
    exact .pattern (hnull.trans hcheck) (hpattern.trans hfamily) (h.arguments.trans harguments) hof
  | values hcheck hfamily hvalues =>
    rw [← h.selector]
    refine .values (hnull.trans hcheck) (hpattern.trans hfamily) ?_
    rw [h.arguments]
    exact values_of_spans h.spans hvalues

/-- The negation of a comparison is compiled to the same condition with the negated operator. -/
theorem compile_negated [PatternSize] {c : Condition} (h : n.Negates p)
    (hc : p.compile schema root options = .ok c) :
    ∃ neg, c.operator.negated? = some neg ∧
      n.compile schema root options = .ok { c with operator := neg } := by
  obtain ⟨found, hfound, hsupports, hcondition⟩ := compile_eq_ok_iff.1 hc
  have hop := effectiveOperator_negated h options found.type
  obtain ⟨-, -, -, hfolds⟩ := Operator.families_of_negated? hop
  refine ⟨n.effectiveOperator options found.type, ?_, compile_eq_ok_iff.2 ⟨found, ?_, ?_, ?_⟩⟩
  · rw [hcondition.operator, hop]
  · rw [h.selector, hfound]
  · rw [Operator.supports_of_negated? hop, hsupports]
  · have hcase : folds options found (n.effectiveOperator options found.type) =
        folds options found (p.effectiveOperator options found.type) := by
      rw [folds, folds, hfolds]
    rw [hcase]
    exact isCondition_negated h hop hcondition

end Placed

/-! ### Conditions on one value -/

namespace Condition

variable {c : Condition} (actual : Value)

/-- What there is to tell of a value that is not null: whether the condition holds for it, by an
operator that has a negation, or nothing. -/
def verdict? (c : Condition) (actual : Value) : Option Bool :=
  match c.operator with
  | .equal => (c.values.head?.bind (c.order actual)).map (· = .eq)
  | .oneOf =>
    if c.values.any fun v => c.order actual v = some .eq then some true
    else if c.values.all fun v => isUnequal (c.order actual v) then some false else none
  | .between => c.isBetween? actual
  | .like => some (c.isLike actual)
  | _ => none

theorem isUnequal_eq (order : Option Ordering) :
    isUnequal order = (order.isSome && ! decide (order = some .eq)) := by
  rcases order with _ | _ | _ | _ <;> rfl

/-- A value that is among the others is not unequal to all of them. -/
theorem all_isUnequal_of_any {values : List Value} {order : Value → Option Ordering}
    (h : values.any fun v => order v = some .eq) :
    (values.all fun v => isUnequal (order v)) = false := by
  obtain ⟨v, hv, heq⟩ := List.any_eq_true.1 h
  rw [List.all_eq_false]
  exact ⟨v, hv, by rw [of_decide_eq_true heq]; decide⟩

theorem order_with_operator (c : Condition) (op : Operator) :
    { c with operator := op }.order = c.order := rfl

theorem isBetween?_with_operator (c : Condition) (op : Operator) :
    { c with operator := op }.isBetween? = c.isBetween? := rfl

theorem isLike_with_operator (c : Condition) (op : Operator) :
    { c with operator := op }.isLike = c.isLike := rfl

/-- The condition and its negation report what there is to tell. -/
theorem holdsForValue_eq_verdict {neg : Operator} (h : c.operator.negated? = some neg)
    (hnull : c.operator ≠ .isNull) :
    c.holdsForValue actual = decide (c.verdict? actual = some true) ∧
      { c with operator := neg }.holdsForValue actual =
        decide (c.verdict? actual = some false) := by
  cases hop : c.operator <;> rw [hop] at h <;> cases h
  case isNull => exact absurd hop hnull
  case equal =>
    simp only [holdsForValue, verdict?, hop, order_with_operator]
    rcases c.values.head?.bind (c.order actual) with _ | _ | _ | _ <;> decide
  case oneOf =>
    simp only [holdsForValue, verdict?, hop, order_with_operator]
    split
    · next hany =>
      rw [hany, all_isUnequal_of_any hany]
      decide
    · next hany =>
      rw [Bool.not_eq_true] at hany
      rw [hany]
      split <;> simp_all
  case like =>
    simp only [holdsForValue, verdict?, hop, isLike_with_operator]
    cases c.isLike actual <;> decide
  case between =>
    simp only [holdsForValue, verdict?, hop, isBetween?_with_operator]
    exact ⟨trivial, rfl⟩

/-- An operator other than a test for null and its negation hold as there is to tell. -/
theorem holdsFor_iff_verdict {neg : Operator} (h : c.operator.negated? = some neg)
    (hnull : c.operator ≠ .isNull) :
    (c.holdsFor actual ↔ actual ≠ .null ∧ c.verdict? actual = some true) ∧
      ({ c with operator := neg }.holdsFor actual ↔
        actual ≠ .null ∧ c.verdict? actual = some false) := by
  have hneg : neg ≠ .isNull := by
    rintro rfl
    cases hop : c.operator <;> rw [hop] at h <;> cases h
  by_cases hactual : actual = .null
  · subst hactual
    simp [holdsFor, Value.isNull, hnull, hneg]
  · obtain ⟨hc, hd⟩ := holdsForValue_eq_verdict actual h hnull
    simp [holdsFor, Value.isNull, hactual, hc, hd]

/-- Neither holds for null and where there is nothing to tell. -/
theorem neither_holdsFor_iff {neg : Operator} (h : c.operator.negated? = some neg)
    (hnull : c.operator ≠ .isNull) :
    (¬ c.holdsFor actual ∧ ¬ { c with operator := neg }.holdsFor actual) ↔
      actual = .null ∨ c.verdict? actual = none := by
  obtain ⟨hc, hd⟩ := holdsFor_iff_verdict actual h hnull
  rw [hc, hd]
  by_cases hactual : actual = .null
  · simp [hactual]
  · rcases c.verdict? actual with _ | _ | _ <;> simp [hactual]

/-- If all values can be compared or none, one is equal or all are unequal exactly if they can. -/
theorem any_or_all_isUnequal {values : List Value} {order : Value → Option Ordering}
    {comparable : Bool} (hne : values ≠ []) (h : ∀ v ∈ values, (order v).isSome = comparable) :
    ((values.any fun v => order v = some .eq) || values.all fun v => isUnequal (order v)) =
      comparable := by
  obtain ⟨v, hv⟩ := List.exists_mem_of_ne_nil values hne
  cases comparable with
  | false =>
    have hnone : ∀ w ∈ values, order w = none := by simpa using h
    have hany : (values.any fun v => order v = some .eq) = false := by
      rw [List.any_eq_false]
      intro w hw
      rw [hnone w hw]
      decide
    have hall : (values.all fun v => isUnequal (order v)) = false := by
      rw [List.all_eq_false]
      exact ⟨v, hv, by rw [hnone v hv]; decide⟩
    rw [hany, hall]
    rfl
  | true =>
    cases hany : values.any fun v => order v = some .eq with
    | true => rfl
    | false =>
      rw [Bool.false_or, List.all_eq_true]
      intro w hw
      rw [isUnequal_eq, h w hw, Bool.true_and, Bool.not_eq_true']
      exact Bool.eq_false_iff.2 (List.any_eq_false.1 hany w hw)

theorem isSome_isBetween? {low high : Value} (h : c.values = [low, high]) :
    (c.isBetween? actual).isSome =
      ((c.order actual low).isSome && (c.order actual high).isSome) := by
  rw [isBetween?, h]
  dsimp only
  cases c.order actual low <;> cases c.order actual high <;> rfl

/-- With as many values as the operator takes, all of which can be compared or none, there is something
to tell if they can. -/
theorem isSome_verdict {comparable : Bool} (hneg : c.operator.negated?.isSome)
    (hnull : c.operator ≠ .isNull) (hlike : c.operator ≠ .like) (hne : c.values ≠ [])
    (hpair : c.operator = .between → c.values.length = 2)
    (h : ∀ v ∈ c.values, (c.order actual v).isSome = comparable) :
    (c.verdict? actual).isSome = comparable := by
  unfold verdict?
  cases hop : c.operator <;> rw [hop] at hneg <;> try cases hneg
  case isNull => exact absurd hop hnull
  case like => exact absurd hop hlike
  case equal =>
    obtain ⟨v, vs, hvalues⟩ := List.exists_cons_of_ne_nil hne
    dsimp only
    rw [Option.isSome_map, hvalues]
    exact h v (by rw [hvalues]; exact List.mem_cons_self)
  case oneOf =>
    dsimp only
    rw [← any_or_all_isUnequal hne h]
    split
    · next hany => rw [hany]; rfl
    · next hany =>
      rw [Bool.eq_false_iff.2 hany, Bool.false_or]
      split
      · next hall => exact hall.symm
      · next hall => exact (Bool.eq_false_iff.2 hall).symm
  case between =>
    obtain ⟨low, high, hvalues⟩ := List.length_eq_two.1 (hpair hop)
    dsimp only
    rw [isSome_isBetween? actual hvalues, h low (by simp [hvalues]), h high (by simp [hvalues]),
      Bool.and_self]

theorem holdsFor_isNull {neg : Operator} (hop : c.operator = .isNull)
    (h : c.operator.negated? = some neg) :
    (c.holdsFor actual ↔ actual = .null) ∧
      ({ c with operator := neg }.holdsFor actual ↔ actual ≠ .null) := by
  rw [hop] at h
  cases h
  by_cases hactual : actual = .null
  · simp [holdsFor, Value.isNull, hactual, hop]
  · simp [holdsFor, holdsForValue, Value.isNull, hactual, hop]

/-- Null satisfies only the test for null. -/
theorem holdsFor_null (c : Condition) : c.holdsFor .null ↔ c.operator = .isNull := by
  simp [holdsFor, Value.isNull]

end Condition

/-! ### Values that cannot be compared -/

/-- A string can be compared with strings, in lowercase or not. -/
theorem Value.isComparable_folded {foldCase : Bool} {type : ValueType}
    (h : foldCase → type = .string) (v : Value) :
    (v.folded foldCase).isComparable type = v.isComparable type := by
  cases foldCase with
  | false => cases v <;> rfl
  | true =>
    rw [h rfl]
    cases v <;> rfl

namespace Placed

section

variable [PatternSize] {schema : Schema} {root : String} {options : Options} {p : Placed}
  {c : Condition}

/-- A value can be compared with all values of a condition, or with none. -/
theorem isSome_order_of_compile (hc : p.compile schema root options = .ok c)
    (hnull : c.operator.isNullCheck = false) (hpattern : c.operator.isPattern = false)
    (actual : Value) : ∀ v ∈ c.values, (c.order actual v).isSome = actual.isComparable c.type := by
  obtain ⟨found, -, -, hcondition⟩ := compile_eq_ok_iff.1 hc
  cases hcondition with
  | null h => exact absurd (hnull.symm.trans h) (by decide)
  | pattern _ h => exact absurd (hpattern.symm.trans h) (by decide)
  | values _ _ hvalues =>
    intro v hv
    obtain ⟨_, -, _, hvalue⟩ := exists_argument_of_mem hvalues hv
    rw [Condition.isSome_order _ (isReadAs_of_value hvalue)]
    apply Value.isComparable_folded
    intro hfold
    simp only [folds, Bool.and_eq_true, decide_eq_true_eq] at hfold
    exact hfold.1.1

/-- A condition has as many values as its operator takes. -/
theorem IsComplete.values (h : p.IsComplete) (hc : p.compile schema root options = .ok c)
    (hnull : c.operator.isNullCheck = false) (hpattern : c.operator.isPattern = false) :
    c.values ≠ [] ∧ (c.operator = .between → c.values.length = 2) := by
  obtain ⟨found, -, -, hcondition⟩ := compile_eq_ok_iff.1 hc
  have harity : (p.effectiveOperator options found.type).arity = p.operator.arity :=
    arity_effectiveOperator
  rw [← hcondition.operator] at harity
  cases hcondition with
  | null h => exact absurd (hnull.symm.trans h) (by decide)
  | pattern _ h => exact absurd (hpattern.symm.trans h) (by decide)
  | values _ _ hvalues =>
    have hlength := length_values h.spans hvalues
    constructor
    · rintro rfl
      exact h.ne_nil (List.length_eq_zero_iff.1 hlength.symm)
    · intro hop
      rw [hop] at harity
      exact hlength.trans (h.pair harity.symm)

/-- A comparison and its negation never hold both for one value. Of the tests for null one holds; for a
pattern neither holds if the value is null; for the others neither holds if the value is null or cannot
be compared with the type of the attribute, and then with none of the values. -/
theorem negation_decides (schema : Schema) (root : String) (options : Options) :
    (∀ (p n : Placed) (c : Condition), n.Negates p → p.compile schema root options = .ok c →
      ∃ d, n.compile schema root options = .ok d ∧ c.operator.negated? = some d.operator ∧
        d = { c with operator := d.operator } ∧ ∀ actual : Value,
          ¬ (c.holdsFor actual ∧ d.holdsFor actual) ∧
          (c.operator = .isNull → (c.holdsFor actual ∨ d.holdsFor actual)) ∧
          (c.operator = .like → (¬ c.holdsFor actual ∧ ¬ d.holdsFor actual ↔ actual = .null)) ∧
          (c.operator ≠ .isNull → c.operator ≠ .like → p.IsComplete →
            (¬ c.holdsFor actual ∧ ¬ d.holdsFor actual ↔
              actual = .null ∨ actual.isComparable c.type = false) ∧
            ∀ v ∈ c.values, (c.order actual v).isSome = actual.isComparable c.type)) ∧
    (∀ c : Condition, c.holdsFor .null ↔ c.operator = .isNull) ∧
    ∀ (text : String) (q : Query), Query.ofText text = .ok q → ∀ p ∈ q.atoms, p.IsComplete := by
  refine ⟨?_, Condition.holdsFor_null, fun text q h => isComplete_of_ofText h⟩
  intro p n c hn hc
  obtain ⟨neg, hneg, hd⟩ := compile_negated hn hc
  refine ⟨_, hd, hneg, rfl, fun actual => ?_⟩
  by_cases hop : c.operator = .isNull
  · obtain ⟨hholds, hnot⟩ := Condition.holdsFor_isNull actual hop hneg
    rw [hholds, hnot]
    refine ⟨fun h => h.2 h.1, fun _ => em _, ?_, fun h => absurd hop h⟩
    intro hlike
    exact absurd (hop.symm.trans hlike) (by decide)
  · obtain ⟨hholds, hnot⟩ := Condition.holdsFor_iff_verdict actual hneg hop
    have hneither := Condition.neither_holdsFor_iff actual hneg hop
    refine ⟨?_, fun h => absurd h hop, ?_, ?_⟩
    · intro hboth
      have htrue := (hholds.1 hboth.1).2
      rw [(hnot.1 hboth.2).2] at htrue
      cases htrue
    · intro hlike
      have hsome : c.verdict? actual = some (c.isLike actual) := by rw [Condition.verdict?, hlike]
      rw [hneither, hsome, or_iff_left (Option.some_ne_none _)]
    · intro _ hlike hcomplete
      -- All values can be compared or none, so that there is something to tell exactly if they can.
      obtain ⟨hnullCheck, hpattern⟩ := Operator.families_of_compared hneg hop hlike
      have hcomparable := isSome_order_of_compile hc hnullCheck hpattern actual
      obtain ⟨hne, hpair⟩ := hcomplete.values hc hnullCheck hpattern
      have hsome := Condition.isSome_verdict actual (by rw [hneg]; rfl) hop hlike hne hpair hcomparable
      refine ⟨?_, hcomparable⟩
      rw [hneither, ← hsome, Option.isSome_eq_false_iff, Option.isNone_iff_eq_none]

end

/-- A truth value is neither among numbers nor among no numbers. -/
theorem negation_decides_boolean :
    ∃ d, Placed.compile ⟨⟨"b", .noneOf, ["1", "2"]⟩, ⟨0, 1⟩, ⟨1, 5⟩, [⟨7, 1⟩, ⟨9, 1⟩]⟩
        Predicate.smallSchema "T" {} = .ok d ∧
      ¬ d.holdsFor (.boolean true) ∧ d.holdsFor (.integer 3) ∧ ¬ d.holdsFor .null := by
  let p : Placed := ⟨⟨"b", .oneOf, ["1", "2"]⟩, ⟨0, 1⟩, ⟨1, 4⟩, [⟨6, 1⟩, ⟨8, 1⟩]⟩
  let n : Placed := ⟨⟨"b", .noneOf, ["1", "2"]⟩, ⟨0, 1⟩, ⟨1, 5⟩, [⟨7, 1⟩, ⟨9, 1⟩]⟩
  let c : Condition := ⟨.parse "b", .oneOf, [.integer 1, .integer 2], .integer, false, none⟩
  have hc : p.compile Predicate.smallSchema "T" {} = .ok c := by decide +kernel
  have hcomplete : p.IsComplete := ⟨rfl, List.cons_ne_nil _ _, nofun⟩
  obtain ⟨hnegates, hnull, -⟩ := negation_decides Predicate.smallSchema "T" {}
  obtain ⟨d, hd, hop, -, hdecides⟩ := hnegates p n c ⟨rfl, rfl, rfl, rfl⟩ hc
  have hneither (actual : Value) := (hdecides actual).2.2.2 nofun nofun hcomplete
  refine ⟨d, hd, ?_, ?_, ?_⟩
  · exact ((hneither (.boolean true)).1.2 (.inr rfl)).2
  · by_contra h
    rcases (hneither (.integer 3)).1.1 ⟨by decide, h⟩ with hactual | hactual <;> cases hactual
  · rw [hnull]
    intro hisNull
    rw [hisNull] at hop
    cases hop

end Placed
end FilterQuery
