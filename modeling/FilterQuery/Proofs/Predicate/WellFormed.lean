import FilterQuery.Proofs.Predicate.Rendering
import FilterQuery.Proofs.Resolution

/-!
# Well-formed conditions

* `Condition.IsWellFormed` : the path leads to an attribute of the condition's type, the operator
  applies to it, and the operator has the values and the pattern that it needs;
* `Condition.isWellFormed_null`, `Condition.isWellFormed_pattern`, `Condition.isWellFormed_values` : one
  lemma for each kind of condition, and `IsCondition.isWellFormed`, the condition of any comparison;
* `Predicate.isWellFormed_of_ofText` : so are all conditions of a predicate that a text gives, one for
  each comparison of the query.
-/

set_option autoImplicit false

namespace FilterQuery
open Grammar

variable {schema : Schema} {root : String} {options : Options}

/-- A condition has all that its operator needs, of the type of the attribute that its path leads to.
The comparison that it stands for has the arguments `arguments`. -/
structure Condition.IsWellFormed [PatternSize] (schema : Schema) (root : String)
    (arguments : List String) (c : Condition) : Prop where
  resolves : ∃ found, resolve schema root (String.ofList c.path.text) = .ok found ∧
    found.type = c.type ∧ c.path.relations = found.steps.map (·.relation)
  supported : c.operator.supports c.type
  null : c.operator.isNullCheck → c.values = [] ∧ c.pattern = none
  pattern : c.operator.isPattern → ∃ source pattern, c.values = [.string source] ∧
    c.pattern = some pattern ∧ pattern.source = source ∧ pattern.caseInsensitive = c.foldCase ∧
    patternSize source.toList c.foldCase ≤ maxPatternSize
  noPattern : c.operator.isPattern = false → c.pattern = none
  single : c.operator.isNullCheck = false → c.operator.arity = .single → c.values.length = 1
  list : c.operator.arity = .list → 1 ≤ c.values.length
  pair : c.operator.arity = .pair → c.values.length = 2
  typed : ∀ v ∈ c.values, v.type? = some c.type ∧ v ≠ .null ∧ ∀ x, v = .decimal x → x.isFinite
  folds : c.foldCase → c.type = .string ∧ c.operator.foldsCase
  folded : c.foldCase → c.operator.isPattern = false →
    c.values = arguments.map fun a => .string (lowercased a)

section Conditions

variable {p : Placed} {op : Operator} {found : Resolution} {foldCase : Bool} {c : Condition}

theorem Value.IsReadAs.ne_null {type : ValueType} {v : Value} (h : v.IsReadAs type foldCase) :
    v ≠ .null := by
  rintro rfl
  cases h.type_eq

/-- With strings folded, the values of a condition are its arguments in lowercase. -/
theorem values_of_folded {arguments : List String} {spans : List Span} {values : List Value}
    (hs : spans.length = arguments.length)
    (h : (arguments.zip spans).map (fun (a, span) => Placed.value .string true a span) =
      values.map .ok) : values = arguments.map fun a => .string (Condition.lowercased a) := by
  induction arguments generalizing spans values with
  | nil => exact List.map_eq_nil_iff.1 h.symm
  | cons a arguments ih =>
    obtain ⟨span, spans, rfl⟩ := List.exists_cons_of_length_eq_add_one hs
    rw [List.zip_cons_cons, List.map_cons] at h
    obtain ⟨v, values, rfl, hv, hvalues⟩ := List.map_eq_cons_iff.1 h.symm
    cases hv
    rw [List.map_cons, ih (Nat.succ.inj hs) hvalues.symm]
    rfl

/-- The path of a selector leads where the selector does. -/
theorem exists_resolve_parse {selector : String} (h : resolve schema root selector = .ok found) :
    ∃ found', resolve schema root (String.ofList (AttributePath.parse selector).text) = .ok found' ∧
      found'.type = found.type ∧
      (AttributePath.parse selector).relations = found'.steps.map (·.relation) := by
  refine ⟨found, ?_, rfl, relations_of_resolve h⟩
  rw [AttributePath.text_parse, String.ofList_toList, h]

section Kinds

variable [PatternSize] {selector : String} {arguments : List String}

theorem Condition.isWellFormed_null (hfound : resolve schema root selector = .ok found)
    (hsupports : op.supports found.type) (hfolds : foldCase → found.type = .string ∧ op.foldsCase)
    (hnull : op.isNullCheck) :
    IsWellFormed schema root arguments ⟨.parse selector, op, [], found.type, foldCase, none⟩ := by
  have harity := Operator.arity_of_isNullCheck hnull
  have hpattern : op.isPattern = false := Operator.isPattern_of_isNullCheck hnull
  have hfold : foldCase = false := by
    by_contra hfold
    have := Operator.isNullCheck_of_foldsCase (hfolds (Bool.eq_true_of_not_eq_false hfold)).2
    exact absurd (hnull.symm.trans this) (by decide)
  exact {
    resolves := exists_resolve_parse hfound
    supported := hsupports
    null := fun _ => ⟨rfl, rfl⟩
    pattern := by simp [hpattern]
    noPattern := fun _ => rfl
    single := by simp [hnull]
    list := by simp [harity]
    pair := by simp [harity]
    typed := List.forall_mem_nil _
    folds := hfolds
    folded := by simp [hfold] }

theorem Condition.isWellFormed_pattern (hfound : resolve schema root selector = .ok found)
    (hsupports : op.supports found.type) (hfolds : foldCase → found.type = .string ∧ op.foldsCase)
    (hpattern : op.isPattern) {source : String}
    (hsize : patternSize source.toList foldCase ≤ maxPatternSize) :
    IsWellFormed schema root arguments
      ⟨.parse selector, op, [.string source], found.type, foldCase, some ⟨source, foldCase⟩⟩ := by
  have harity := Operator.arity_of_isPattern hpattern
  have hnull : op.isNullCheck = false := Operator.isNullCheck_of_isPattern hpattern
  have hstring : found.type = .string := Operator.eq_string_of_supports hpattern hsupports
  exact {
    resolves := exists_resolve_parse hfound
    supported := hsupports
    null := by simp [hnull]
    pattern := fun _ => ⟨source, _, rfl, rfl, rfl, rfl, hsize⟩
    noPattern := by simp [hpattern]
    single := fun _ _ => rfl
    list := by simp [harity]
    pair := by simp [harity]
    typed := by simp [hstring, Value.type?]
    folds := hfolds
    folded := by simp [hpattern] }

theorem Condition.isWellFormed_values (hfound : resolve schema root selector = .ok found)
    (hsupports : op.supports found.type) (hfolds : foldCase → found.type = .string ∧ op.foldsCase)
    (hnull : op.isNullCheck = false) (hpattern : op.isPattern = false) {values : List Value}
    (hcount : values ≠ []) (hsingle : op.arity = .single → values.length = 1)
    (hpair : op.arity = .pair → values.length = 2)
    (hread : ∀ v ∈ values, v.IsReadAs found.type foldCase)
    (hfolded : foldCase → values = arguments.map fun a => .string (lowercased a)) :
    IsWellFormed schema root arguments
      ⟨.parse selector, op, values, found.type, foldCase, none⟩ where
  resolves := exists_resolve_parse hfound
  supported := hsupports
  null := by simp [hnull]
  pattern := by simp [hpattern]
  noPattern _ := rfl
  single _ := hsingle
  list _ := List.length_pos_iff.2 hcount
  pair := hpair
  typed v hv := ⟨(hread v hv).type_eq, (hread v hv).ne_null, (hread v hv).finite⟩
  folds := hfolds
  folded hfold _ := hfolded hfold

end Kinds

theorem IsCondition.isWellFormed [PatternSize] (h : IsCondition p op found.type foldCase c)
    (hfound : resolve schema root p.selector = .ok found) (hsupports : op.supports found.type)
    (hfolds : foldCase → found.type = .string ∧ op.foldsCase)
    (hw : IsWritable p.toComparison) (harity : op.arity = p.operator.arity)
    (hs : p.argumentSpans.length = p.arguments.length) :
    c.IsWellFormed schema root p.arguments := by
  cases h with
  | null hnull => exact Condition.isWellFormed_null hfound hsupports hfolds hnull
  | pattern _ hpattern _ hof =>
    obtain ⟨hsize, rfl⟩ := LikePattern.ofSource?_eq_some_iff.1 hof
    exact Condition.isWellFormed_pattern hfound hsupports hfolds hpattern hsize
  | @values values hnull hpattern hvalues =>
    have hlength : values.length = p.arguments.length := length_values hs hvalues
    have hne : values ≠ [] := by
      rw [← List.length_pos_iff, hlength]
      exact List.length_pos_iff.2 hw.ne_nil
    apply Condition.isWellFormed_values hfound hsupports hfolds hnull hpattern hne
    · intro hsingle
      rw [harity] at hsingle
      exact hlength.trans (hw.single hsingle)
    · intro hpair
      rw [harity] at hpair
      exact hlength.trans (hw.pair hpair)
    · intro v hv
      obtain ⟨_, -, _, ha⟩ := exists_argument_of_mem hvalues hv
      exact Placed.isReadAs_of_value ha
    · intro hfold
      rw [(hfolds hfold).1, hfold] at hvalues
      exact values_of_folded hs hvalues

/-- What a comparison that can be written is compiled to is well formed. -/
theorem Placed.isWellFormed_of_compile [PatternSize] (h : p.compile schema root options = .ok c)
    (hw : IsWritable p.toComparison) (hs : p.argumentSpans.length = p.arguments.length) :
    c.IsWellFormed schema root p.arguments := by
  obtain ⟨found, hfound, hsupports, hcond⟩ := compile_eq_ok_iff.1 h
  refine hcond.isWellFormed hfound hsupports ?_ hw arity_effectiveOperator hs
  intro hfold
  simp only [folds, Bool.and_eq_true, decide_eq_true_eq] at hfold
  exact hfold.1

end Conditions

/-- The comparisons of a query and the conditions of its predicate, one by one. -/
theorem Query.forall₂_compile [PatternSize] {q : Query} {p : Predicate}
    (h : q.map (·.compile schema root options) = p.map .ok) :
    List.Forall₂ (fun a c => a.compile schema root options = .ok c) q.atoms p.atoms := by
  have hatoms : q.atoms.map (·.compile schema root options) = p.atoms.map .ok := by
    rw [← Formula.atoms_map, h, Formula.atoms_map]
  rw [← List.forall₂_eq_eq_eq, List.forall₂_map_left_iff, List.forall₂_map_right_iff] at hatoms
  exact hatoms

/-- Every condition of a predicate that a text gives is well formed: the conditions stand for the
comparisons of the query, in their order. Such a predicate is equal to itself. -/
theorem Predicate.isWellFormed_of_ofText [PatternSize] {text : String} {p : Predicate}
    (h : ofText text schema root options = .ok p) :
    (∃ q, Query.ofText text = .ok q ∧
      List.Forall₂ (fun a c => Condition.IsWellFormed schema root a.arguments c)
        q.atoms p.atoms) ∧
    p.agrees p := by
  refine ⟨?_, agrees_self h⟩
  obtain ⟨q, hq, hp⟩ := ofText_eq_ok.1 h
  refine ⟨q, hq, ?_⟩
  have hread : ∀ a ∈ q.atoms, IsWritable a.toComparison ∧
      a.argumentSpans.length = a.arguments.length := by
    intro a ha
    exact ⟨isWritable_of_ofText hq a ha, length_spans_of_ofText hq a ha⟩
  refine List.Forall₂.imp ?_ ((List.forall₂_and_left _ _).2 ⟨hread, Query.forall₂_compile hp⟩)
  rintro a c ⟨⟨hw, hs⟩, hc⟩
  exact Placed.isWellFormed_of_compile hc hw hs

theorem Predicate.isWellFormed_of_ofText_folded :
    ∃ p, ofText "a=in=(X,y);b!=+1" smallSchema "T" ⟨true, true⟩ = .ok p ∧
      p.text = "a=in=(x,y);b!=1" ∧
      (∃ q, Query.ofText "a=in=(X,y);b!=+1" = .ok q ∧
        List.Forall₂ (fun a c => Condition.IsWellFormed smallSchema "T" a.arguments c)
          q.atoms p.atoms) ∧
      p.agrees p := by
  have h : (ofText "a=in=(X,y);b!=+1" smallSchema "T" ⟨true, true⟩).toOption.any fun p =>
      p.text = "a=in=(x,y);b!=1" := by
    decide +kernel
  cases hp : ofText "a=in=(X,y);b!=+1" smallSchema "T" ⟨true, true⟩ with
  | error e =>
    rw [hp] at h
    cases h
  | ok p =>
    rw [hp] at h
    exact ⟨p, rfl, of_decide_eq_true h, isWellFormed_of_ofText hp⟩

end FilterQuery
