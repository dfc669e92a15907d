import FilterQuery.Diagnosis
import FilterQuery.Proofs.Predicate.Faults

/-!
# What depends on places

Places are for reports, and yet one thing that a query means depends on them: an argument without a place
gives no value.

* `CompileError.unplaced` : an error up to the places that it shows;
* `CompileError.SameReport` : errors with the same report but for the places;
* `Placed.valueCount` : the number of values that a comparison has;
* `Placed.compile_unplaced` : a comparison compiles alike wherever it stands if it has as many values;
* `Query.compiles_up_to_places` : so do queries, and only so to equal predicates;
* `Query.compile_unplaced_of_ofText` : queries that are read from texts have a place for each argument.
-/

set_option autoImplicit false

namespace FilterQuery

/-! ### Errors without places -/

/-- A place that says nothing. -/
def Span.nowhere : Span := ⟨0, 0⟩

namespace CompileError

/-- The error with places that say nothing. -/
def unplaced : CompileError → CompileError
  | unknownType name => .unknownType name
  | unknownAttribute path segment type fault available _ =>
    .unknownAttribute path segment type fault available .nowhere
  | unsupportedOperator op type path _ _ => .unsupportedOperator op type path .nowhere .nowhere
  | coercion literal type error _ => .coercion literal type error .nowhere
  | patternTooLarge literal _ => .patternTooLarge literal .nowhere
  | patternMissing => .patternMissing

/-- What is reported of the errors is the same but for the places. -/
structure SameReport (e e' : CompileError) : Prop where
  message : e.message = e'.message
  code : e.code = e'.code
  help : e.help? = e'.help?
  labels : e.labels.map (·.2) = e'.labels.map (·.2)

/-- Without places an error is reported as it is with them. -/
theorem sameReport_unplaced (e : CompileError) : e.unplaced.SameReport e := by
  cases e <;> exact ⟨rfl, rfl, rfl, rfl⟩

theorem sameReport_of_unplaced {e e' : CompileError} (h : e.unplaced = e'.unplaced) :
    e.SameReport e' := by
  have he := e.sameReport_unplaced
  have he' := e'.sameReport_unplaced
  rw [h] at he
  exact ⟨he.message.symm.trans he'.message, he.code.symm.trans he'.code,
    he.help.symm.trans he'.help, he.labels.symm.trans he'.labels⟩

end CompileError

theorem ResolveError.unplaced_compileError (e : ResolveError) (p p' : Placed) :
    (e.compileError p).unplaced = (e.compileError p').unplaced := by
  cases e <;> rfl

/-! ### Comparisons -/

namespace Placed

variable {schema : Schema} {root : String} {options : Options} {p p' : Placed} {type : ValueType}
  {foldCase : Bool}

theorem value_unplaced (argument : String) (span : Span) :
    (value type foldCase argument span).mapError CompileError.unplaced =
      value type foldCase argument .nowhere := by
  rw [value_eq, value_eq]
  cases coerce argument type <;> rfl

theorem map_fst_zip_eq_take (arguments : List String) (spans : List Span) :
    (arguments.zip spans).map (·.1) = arguments.take spans.length := by
  induction arguments generalizing spans with
  | nil => rw [List.zip_nil_left, List.map_nil, List.take_nil]
  | cons argument arguments ih =>
    cases spans with
    | nil => rfl
    | cons span spans =>
      rw [List.zip_cons_cons, List.map_cons, ih, List.length_cons, List.take_succ_cons]

/-- The values are those of the first arguments, as many as have places. -/
theorem values_unplaced (arguments : List String) (spans : List Span) :
    ((arguments.zip spans).mapM fun (argument, span) =>
        value type foldCase argument span).mapError CompileError.unplaced =
      (arguments.take spans.length).mapM fun argument => value type foldCase argument .nowhere := by
  rw [← map_fst_zip_eq_take]
  symm
  apply mapM_map_mapError
  rintro ⟨argument, span⟩ _
  exact (value_unplaced argument span).symm

/-- The number of values that a comparison has: an argument without a place gives none. Null checks have
no values, and a pattern is none. -/
def valueCount (schema : Schema) (root : String) (options : Options) (p : Placed) : Nat :=
  match resolve schema root p.selector with
  | .error _ => 0
  | .ok found =>
    let op := p.effectiveOperator options found.type
    if op.isNullCheck || op.isPattern then 0 else min p.argumentSpans.length p.arguments.length

theorem condition_unplaced [PatternSize] {op : Operator} (h : p.toComparison = p'.toComparison)
    (hcount : op.isNullCheck = false → op.isPattern = false →
      min p.argumentSpans.length p.arguments.length =
        min p'.argumentSpans.length p'.arguments.length) :
    (p.condition op type foldCase).mapError CompileError.unplaced =
      (p'.condition op type foldCase).mapError CompileError.unplaced := by
  have hselector : p.selector = p'.selector := congrArg Comparison.selector h
  have harguments : p.arguments = p'.arguments := congrArg Comparison.arguments h
  unfold condition
  dsimp only
  rw [hselector, harguments]
  split
  · rfl
  · next hnull =>
    split
    · split
      · rfl
      · split <;> rfl
    · next hpattern =>
      have hvalues : ((p'.arguments.zip p.argumentSpans).mapM fun (argument, span) =>
            value type foldCase argument span).mapError CompileError.unplaced =
          ((p'.arguments.zip p'.argumentSpans).mapM fun (argument, span) =>
            value type foldCase argument span).mapError CompileError.unplaced := by
        have hmin := hcount (Bool.eq_false_iff.2 hnull) (Bool.eq_false_iff.2 hpattern)
        rw [harguments] at hmin
        rw [values_unplaced, values_unplaced, List.take_eq_take_iff.2 hmin]
      exact (mapError_map ..).trans ((congrArg (Except.map _) hvalues).trans (mapError_map ..).symm)

/-- A comparison compiles alike wherever it and its parts stand, as long as it has as many values. -/
theorem compile_unplaced [PatternSize] (h : p.toComparison = p'.toComparison)
    (hcount : p.valueCount schema root options = p'.valueCount schema root options) :
    (p.compile schema root options).mapError CompileError.unplaced =
      (p'.compile schema root options).mapError CompileError.unplaced := by
  have hselector : p.selector = p'.selector := congrArg Comparison.selector h
  have heffective (type : ValueType) :
      p.effectiveOperator options type = p'.effectiveOperator options type := by
    unfold effectiveOperator
    rw [h]
  unfold valueCount at hcount
  unfold compile
  rw [hselector] at hcount ⊢
  cases hresolve : resolve schema root p'.selector with
  | error e => exact congrArg Except.error (e.unplaced_compileError p p')
  | ok found =>
    rw [hresolve] at hcount
    dsimp only at hcount ⊢
    rw [heffective] at hcount ⊢
    split
    · apply condition_unplaced h
      intro hnull hpattern
      simpa [hnull, hpattern] using hcount
    · rfl

/-- With a place for each argument there is a value for each. -/
theorem valueCount_of_toComparison (h : p.toComparison = p'.toComparison)
    (hp : p.arguments.length ≤ p.argumentSpans.length)
    (hp' : p'.arguments.length ≤ p'.argumentSpans.length) :
    p.valueCount schema root options = p'.valueCount schema root options := by
  have hselector : p.selector = p'.selector := congrArg Comparison.selector h
  have harguments : p.arguments = p'.arguments := congrArg Comparison.arguments h
  unfold valueCount effectiveOperator
  rw [Nat.min_eq_right hp, Nat.min_eq_right hp', hselector, harguments, h]

/-- The values of a condition are as many as the comparison has. -/
theorem valueCount_of_compile [PatternSize] {c : Condition}
    (h : p.compile schema root options = .ok c) : p.valueCount schema root options =
      if c.operator.isPattern then 0 else c.values.length := by
  obtain ⟨found, hfound, -, hcond⟩ := compile_eq_ok_iff.1 h
  unfold valueCount
  rw [hfound]
  dsimp only
  cases hcond with
  | null hnull =>
    rw [hnull, Bool.true_or, if_pos rfl, List.length_nil, ite_self]
  | pattern _ hpattern _ _ =>
    rw [hpattern, Bool.or_true, if_pos rfl, if_pos rfl]
  | values hnull hpattern hvalues =>
    have hlength := congrArg List.length hvalues
    rw [List.length_map, List.length_map, List.length_zip, Nat.min_comm] at hlength
    rw [hnull, hpattern, Bool.or_false, if_neg Bool.false_ne_true, hlength]
    exact (if_neg Bool.false_ne_true).symm

end Placed

/-! ### Queries -/

namespace Query

section

variable {schema : Schema} {root : String} {options : Options} {q q' : Query}

/-- With a place for each argument there is a value for each. -/
theorem valueCount_of_bare (h : q.bare = q'.bare)
    (hq : ∀ a ∈ q.atoms, a.arguments.length ≤ a.argumentSpans.length)
    (hq' : ∀ a ∈ q'.atoms, a.arguments.length ≤ a.argumentSpans.length) :
    q.map (·.valueCount schema root options) = q'.map (·.valueCount schema root options) := by
  apply Formula.map_eq_map_of_atoms h
  intro a ha b hb hab
  exact Placed.valueCount_of_toComparison hab (hq a ha) (hq' b hb)

variable [PatternSize]

/-- Queries that differ in places alone compile alike if their comparisons have as many values. -/
theorem compile_unplaced (h : q.bare = q'.bare)
    (hcount : q.map (·.valueCount schema root options) = q'.map (·.valueCount schema root options)) :
    (q.compile schema root options).mapError CompileError.unplaced =
      (q'.compile schema root options).mapError CompileError.unplaced := by
  -- both equations are about whole formulas, and what a comparison compiles to follows from the two
  have hresults : q.map (fun p => (p.compile schema root options).mapError CompileError.unplaced) =
      q'.map fun p => (p.compile schema root options).mapError CompileError.unplaced :=
    Formula.map_eq_map_of_both h hcount fun _ _ => Placed.compile_unplaced
  have htraverse (q : Query) : (q.compile schema root options).mapError CompileError.unplaced =
      (q.map fun p => (p.compile schema root options).mapError CompileError.unplaced).traverse id := by
    symm
    apply Formula.traverse_map
    intro _ _
    rfl
  rw [htraverse, htraverse, hresults]

theorem valueCount_of_compile {p : Predicate} (h : q.compile schema root options = .ok p) :
    q.map (·.valueCount schema root options) =
      p.map fun c => if c.operator.isPattern then 0 else c.values.length := by
  apply Formula.map_eq_map_of_atoms (compile_eq_ok_iff.1 h)
  intro a _ c _ hac
  exact Placed.valueCount_of_compile hac

/-- Queries that are read from texts and differ in places alone compile alike. -/
theorem compile_unplaced_of_ofText {text text' : String} (hq : ofText text = .ok q)
    (hq' : ofText text' = .ok q') (h : q.bare = q'.bare) :
    (q.compile schema root options).mapError CompileError.unplaced =
      (q'.compile schema root options).mapError CompileError.unplaced := by
  apply compile_unplaced h
  apply valueCount_of_bare h
  · intro a ha
    exact (Grammar.length_spans_of_ofText hq a ha).ge
  · intro a ha
    exact (Grammar.length_spans_of_ofText hq' a ha).ge

/-- Queries that differ in places alone compile to equal predicates, or fail with errors that differ in
places alone, in the report too, if their comparisons have as many values; and these are as many if there
is a place for each argument. Where one of the queries compiles this is the only case in which the other
one compiles to an equal predicate. -/
theorem compiles_up_to_places (h : q.bare = q'.bare) :
    (q.map (·.valueCount schema root options) = q'.map (·.valueCount schema root options) →
      (∃ p, q.compile schema root options = .ok p ∧ q'.compile schema root options = .ok p) ∨
      ∃ e e', q.compile schema root options = .error e ∧ q'.compile schema root options = .error e' ∧
        e.unplaced = e'.unplaced ∧ e.SameReport e') ∧
    (∀ p, q.compile schema root options = .ok p → (q'.compile schema root options = .ok p ↔
      q.map (·.valueCount schema root options) = q'.map (·.valueCount schema root options))) ∧
    ((∀ a ∈ q.atoms, a.arguments.length ≤ a.argumentSpans.length) →
      (∀ a ∈ q'.atoms, a.arguments.length ≤ a.argumentSpans.length) →
      q.map (·.valueCount schema root options) = q'.map (·.valueCount schema root options)) := by
  refine ⟨?_, ?_, valueCount_of_bare h⟩
  · intro hcount
    refine (mapError_eq_mapError.1 (compile_unplaced h hcount)).imp_right ?_
    rintro ⟨e, e', he, he', hunplaced⟩
    exact ⟨e, e', he, he', hunplaced, CompileError.sameReport_of_unplaced hunplaced⟩
  · intro p hp
    constructor
    · intro hp'
      rw [valueCount_of_compile hp, valueCount_of_compile hp']
    · intro hcount
      have hunplaced := compile_unplaced h hcount
      rw [hp] at hunplaced
      exact mapError_eq_ok.1 hunplaced.symm

end

/-- A comparison with two arguments and some places for them. -/
def pairWith (spans : List Span) : Query :=
  .atom ⟨⟨"b", .oneOf, ["1", "2"]⟩, ⟨0, 1⟩, ⟨1, 4⟩, spans⟩

open Predicate (smallSchema)

theorem compiles_up_to_places_moved :
    (pairWith [⟨6, 1⟩, ⟨8, 1⟩]).bare = (pairWith [⟨9, 1⟩, ⟨7, 1⟩, ⟨0, 3⟩]).bare ∧
    ∃ p, (pairWith [⟨6, 1⟩, ⟨8, 1⟩]).compile smallSchema "T" {} = .ok p ∧
      (pairWith [⟨9, 1⟩, ⟨7, 1⟩, ⟨0, 3⟩]).compile smallSchema "T" {} = .ok p := by
  have h : (pairWith [⟨6, 1⟩, ⟨8, 1⟩]).bare = (pairWith [⟨9, 1⟩, ⟨7, 1⟩, ⟨0, 3⟩]).bare := rfl
  obtain ⟨p, hp⟩ : ∃ p, (pairWith [⟨6, 1⟩, ⟨8, 1⟩]).compile smallSchema "T" {} = .ok p :=
    ⟨.atom ⟨.parse "b", .oneOf, [.integer 1, .integer 2], .integer, false, none⟩, rfl⟩
  have hcount : (pairWith [⟨6, 1⟩, ⟨8, 1⟩]).map (·.valueCount smallSchema "T" {}) =
      (pairWith [⟨9, 1⟩, ⟨7, 1⟩, ⟨0, 3⟩]).map (·.valueCount smallSchema "T" {}) :=
    (compiles_up_to_places h).2.2 (by decide) (by decide)
  exact ⟨h, p, hp, ((compiles_up_to_places h).2.1 p hp).2 hcount⟩

/-- An argument without a place is left out of the predicate. -/
theorem compile_depends_on_places : ¬ ∀ (schema : Schema) (root : String) (options : Options)
    (q q' : Query), q.bare = q'.bare →
      (∃ p, q.compile schema root options = .ok p ∧ q'.compile schema root options = .ok p) ∨
      ∃ e e', q.compile schema root options = .error e ∧ q'.compile schema root options = .error e' ∧
        e.unplaced = e'.unplaced := by
  intro h
  have hboth : (pairWith [⟨6, 1⟩, ⟨8, 1⟩]).compile smallSchema "T" {} =
      .ok (.atom ⟨.parse "b", .oneOf, [.integer 1, .integer 2], .integer, false, none⟩) := rfl
  have hone : (pairWith [⟨6, 1⟩]).compile smallSchema "T" {} =
      .ok (.atom ⟨.parse "b", .oneOf, [.integer 1], .integer, false, none⟩) := rfl
  rcases h smallSchema "T" {} (pairWith [⟨6, 1⟩, ⟨8, 1⟩]) (pairWith [⟨6, 1⟩]) rfl with
    ⟨p, hp, hp'⟩ | ⟨e, e', he, -, -⟩
  · rw [hboth] at hp
    rw [hone, ← Except.ok.inj hp] at hp'
    cases hp'
  · rw [hboth] at he
    cases he

end Query

end FilterQuery
