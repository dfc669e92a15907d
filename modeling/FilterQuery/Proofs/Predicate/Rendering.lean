import FilterQuery.Proofs.Predicate.Compiled
import FilterQuery.Proofs.Query.Rendering

/-!
# Predicates and their canonical texts

* `IsCondition.exists_clause` : the text of a condition is a comparison;
* `Predicate.ofText_eq_ok` : the predicate of a text is that of its query, atom by atom;
* `Predicate.ofText_text` : the canonical text of a predicate gives the predicate again, unless it is
  nested too deeply.
-/

set_option autoImplicit false

namespace FilterQuery
open Grammar

variable {schema : Schema} {root : String} {options : Options}

/-! ### Families of operators -/

namespace Operator

variable {op : Operator}

theorem isPattern_iff : op.isPattern ↔ op = .like ∨ op = .notLike := by
  cases op <;> decide

theorem arity_of_isNullCheck (h : op.isNullCheck) : op.arity = .single := by
  cases op <;> first | rfl | cases h

theorem arity_of_isPattern (h : op.isPattern) : op.arity = .single := by
  rcases isPattern_iff.1 h with rfl | rfl <;> rfl

theorem isNullCheck_of_isPattern (h : op.isPattern) : op.isNullCheck = false := by
  rcases isPattern_iff.1 h with rfl | rfl <;> rfl

theorem isPattern_of_isNullCheck (h : op.isNullCheck) : op.isPattern = false := by
  cases op <;> first | rfl | cases h

theorem isNullCheck_of_foldsCase (h : op.foldsCase) : op.isNullCheck = false := by
  cases op <;> first | rfl | cases h

/-- Patterns are for strings alone. -/
theorem eq_string_of_supports {type : ValueType} (hpattern : op.isPattern) (h : op.supports type) :
    type = .string := by
  rcases isPattern_iff.1 hpattern with rfl | rfl <;> cases type <;> first | rfl | cases h

end Operator

/-! ### The text of a condition -/

section Conditions

variable {p : Placed} {op : Operator} {type : ValueType} {foldCase : Bool} {c : Condition}

theorem length_values {arguments : List String} {spans : List Span} {values : List Value}
    (hs : spans.length = arguments.length)
    (h : (arguments.zip spans).map (fun (a, span) => Placed.value type foldCase a span) =
      values.map .ok) : values.length = arguments.length := by
  have := congrArg List.length h
  rw [List.length_map, List.length_map, List.length_zip, hs, Nat.min_self] at this
  exact this.symm

theorem quoteIfNeeded_true : quoteIfNeeded "true".toList = "true".toList := by decide

/-- The text of a condition with one argument is a comparison. -/
theorem Condition.exists_clause_single (hs : IsSelector (String.ofList c.path.text))
    (hop : c.operator.arity = .single) {argument : String} (hliterals : c.literals = [argument])
    (htext : c.text =
      c.path.text ++ c.operator.symbol.toList ++ quoteIfNeeded argument.toList) :
    ∃ clause : Clause, Writes (Item.comparison clause).lexemes c.text ∧
      clause.comparison = c.comparison := by
  have hne : c.operator.arity ≠ .pair := by
    rw [hop]
    decide
  have := exists_clause_bare hs hne argument
  rw [String.toList_ofList] at this
  rw [htext, Condition.comparison, hliterals]
  exact this

/-- The text of a condition with values is a comparison; they stand in parentheses if the operator
may take more than one. -/
theorem Condition.exists_clause_values (hs : IsSelector (String.ofList c.path.text))
    (hnull : c.operator.isNullCheck = false) (hpattern : c.pattern = none) (hne : c.values ≠ [])
    (hsingle : c.operator.arity = .single → c.values.length = 1)
    (hpair : c.operator.arity = .pair → c.values.length = 2) :
    ∃ clause : Clause, Writes (Item.comparison clause).lexemes c.text ∧
      clause.comparison = c.comparison := by
  have hliterals : c.literals = c.values.map fun v => String.ofList v.literal := by
    rw [Condition.literals, if_neg (by simp [hnull]), hpattern]
  by_cases hop : c.operator.arity = .single
  · obtain ⟨v, hv⟩ := List.length_eq_one_iff.1 (hsingle hop)
    rw [hv] at hliterals
    apply exists_clause_single hs hop hliterals
    rw [Condition.text, if_neg (by simp [hnull]), hpattern, hop, hv, String.toList_ofList,
      ← Value.text_eq]
  · have htext : c.text = c.path.text ++ c.operator.symbol.toList ++
        ('(' :: [','].intercalate (c.values.map Value.text) ++ [')']) := by
      rw [Condition.text, if_neg (by simp [hnull]), hpattern]
      dsimp only
      split
      · next heq _ => exact absurd heq hop
      · rfl
    have hquoted : c.literals.map (fun v => quoteIfNeeded v.toList) = c.values.map Value.text := by
      rw [hliterals, List.map_map]
      apply List.map_congr_left
      intro v _
      rw [Function.comp_apply, String.toList_ofList, Value.text_eq]
    have hlength : c.literals.length = c.values.length := by rw [hliterals, List.length_map]
    have hnil : c.literals ≠ [] := by
      rw [← List.length_pos_iff, hlength, List.length_pos_iff]
      exact hne
    have := exists_clause_list hs hop hnil (hlength.trans ∘ hpair)
    rw [String.toList_ofList, hquoted, ← htext] at this
    exact this

/-- The text of the condition of a comparison that can be written is a comparison. -/
theorem IsCondition.exists_clause [PatternSize] (h : IsCondition p op type foldCase c)
    (hw : IsWritable p.toComparison) (harity : op.arity = p.operator.arity)
    (hs : p.argumentSpans.length = p.arguments.length) :
    ∃ clause : Clause, Writes (Item.comparison clause).lexemes c.text ∧
      clause.comparison = c.comparison := by
  have hselector : IsSelector (String.ofList c.path.text) := by
    rw [h.selector]
    exact hw.selector
  cases h with
  | null hnull =>
    have hop := Operator.arity_of_isNullCheck hnull
    apply Condition.exists_clause_single hselector hop (if_pos hnull)
    rw [Condition.text, if_pos hnull, quoteIfNeeded_true]
  | pattern hnull hpattern _ _ =>
    have hop := Operator.arity_of_isPattern hpattern
    have hnull' : ¬ op.isNullCheck := by simp [hnull]
    apply Condition.exists_clause_single hselector hop (if_neg hnull')
    rw [Condition.text, if_neg hnull']
  | values hnull hpattern hvalues =>
    have hlength := length_values hs hvalues
    apply Condition.exists_clause_values hselector hnull rfl
    · intro hnil
      rw [List.length_eq_zero_iff.2 hnil] at hlength
      exact hw.ne_nil (List.length_eq_zero_iff.1 hlength.symm)
    · intro hop
      rw [harity] at hop
      exact hlength.trans (hw.single hop)
    · intro hop
      rw [harity] at hop
      exact hlength.trans (hw.pair hop)

end Conditions

/-! ### The text of a predicate -/

namespace Predicate

section

variable [PatternSize]

theorem ofText_eq_ok {text : String} {p : Predicate} :
    ofText text schema root options = .ok p ↔ ∃ q, Query.ofText text = .ok q ∧
      q.map (·.compile schema root options) = p.map .ok := by
  have hcompile (q : Query) :
      (q.compile schema root options).mapError (fun e => QueryError.mk (.semantic e) text) = .ok p ↔
        q.map (·.compile schema root options) = p.map .ok := by
    rw [mapError_eq_ok, Query.compile, Formula.traverse_eq_ok_iff]
  unfold ofText
  exact bind_eq_ok.trans (exists_congr fun q => and_congr_right fun _ => hcompile q)

theorem ofText_of_query {text : String} {q : Query} (h : Query.ofText text = .ok q) :
    ofText text schema root options =
      (q.compile schema root options).mapError (⟨.semantic ·, text⟩) := by
  unfold ofText
  rw [h]
  rfl

theorem ofText_eq_error {text : String} {e : QueryError} :
    ofText text schema root options = .error e ↔ Query.ofText text = .error e ∨
      ∃ q cause, Query.ofText text = .ok q ∧ q.compile schema root options = .error cause ∧
        e = ⟨.semantic cause, text⟩ := by
  cases hq : Query.ofText text with
  | error e' =>
    unfold ofText
    rw [hq]
    simp [Bind.bind, Except.bind]
  | ok q =>
    rw [ofText_of_query hq, mapError_eq_error]
    simp [eq_comm]

variable {text : String} {p : Predicate}

/-- Each condition of a predicate is that of a comparison that was read. -/
theorem exists_placed (h : ofText text schema root options = .ok p) {c : Condition}
    (hc : c ∈ p.atoms) : ∃ a : Placed, a.compile schema root options = .ok c ∧
      IsWritable a.toComparison ∧ a.argumentSpans.length = a.arguments.length := by
  obtain ⟨q, hq, hp⟩ := ofText_eq_ok.1 h
  have hmem : (.ok c : Except CompileError Condition) ∈ p.atoms.map .ok := List.mem_map_of_mem hc
  rw [← Formula.atoms_map, ← hp, Formula.atoms_map] at hmem
  obtain ⟨a, ha, hac⟩ := List.mem_map.1 hmem
  exact ⟨a, hac, isWritable_of_ofText hq a ha, length_spans_of_ofText hq a ha⟩

theorem isBranching_of_ofText (h : ofText text schema root options = .ok p) : p.IsBranching := by
  obtain ⟨q, hq, hp⟩ := ofText_eq_ok.1 h
  rw [← Formula.isBranching_map Except.ok p, ← hp, Formula.isBranching_map]
  exact Grammar.isBranching_of_ofText hq

theorem isWritten_of_ofText (h : ofText text schema root options = .ok p) :
    IsWritten Condition.text Condition.comparison p := by
  intro c hc
  obtain ⟨a, hcompile, hw, hs⟩ := exists_placed h hc
  obtain ⟨found, -, -, hcond⟩ := Placed.compile_eq_ok_iff.1 hcompile
  exact hcond.exists_clause hw Placed.arity_effectiveOperator hs

/-- The text of a predicate is read as comparisons with the same conditions. -/
theorem ofText_text (h : ofText text schema root options = .ok p) (hn : p.nesting ≤ maxGroups) :
    ofText p.text schema root options = .ok p := by
  obtain ⟨q, hq, hbare⟩ := ofText_render (isBranching_of_ofText h) (isWritten_of_ofText h) hn
  have hatoms : ∀ b ∈ q.atoms, ∀ c ∈ p.atoms, b.toComparison = c.comparison →
      b.compile schema root options = .ok c := by
    intro b hb c hc heq
    obtain ⟨a, hcompile, -, -⟩ := exists_placed h hc
    exact Placed.compile_comparison hcompile heq (length_spans_of_ofText hq b hb)
  exact ofText_eq_ok.2 ⟨q, hq, Formula.map_eq_map_of_atoms hbare hatoms⟩

theorem agrees_self (h : ofText text schema root options = .ok p) : p.agrees p := by
  apply Formula.agrees_self
  intro c hc
  obtain ⟨a, hcompile, -, -⟩ := exists_placed h hc
  obtain ⟨found, -, -, hcond⟩ := Placed.compile_eq_ok_iff.1 hcompile
  exact hcond.agrees

theorem ofText_text_too_deep (h : ofText text schema root options = .ok p)
    (hn : maxGroups < p.nesting) : ∃ span, ofText p.text schema root options =
      .error ⟨.grammatical ⟨.fewerGroups, .token .openGroup "(", span⟩, p.text⟩ := by
  obtain ⟨span, he⟩ :=
    ofText_render_too_deep (isBranching_of_ofText h) (isWritten_of_ofText h) hn
  refine ⟨span, ?_⟩
  unfold ofText
  rw [Predicate.text, he]
  rfl

/-- The canonical text of a predicate gives an equal predicate again if it is nested at most
`maxGroups` deep, and is refused at a parenthesis else. -/
theorem recompiles_text (h : ofText text schema root options = .ok p) :
    (p.nesting ≤ maxGroups → ofText p.text schema root options = .ok p ∧ p.agrees p) ∧
    (maxGroups < p.nesting → ∃ span, ofText p.text schema root options =
      .error ⟨.grammatical ⟨.fewerGroups, .token .openGroup "(", span⟩, p.text⟩) := by
  constructor
  · intro hn
    exact ⟨ofText_text h hn, agrees_self h⟩
  · exact ofText_text_too_deep h

end

/-- A type with a string and an integer. -/
def smallSchema : Schema :=
  Table.empty.insert "T"
    ((Table.empty.insert "a" (.scalar .string)).insert "b" (.scalar .integer))

theorem recompiles_text_wildcard :
    ∃ p, ofText "a==x*,b=in=(2,+1)" smallSchema "T" ⟨true, false⟩ = .ok p ∧
      p.text = "a=like=x*,b=in=(2,1)" ∧ p.nesting ≤ maxGroups ∧
      ofText p.text smallSchema "T" ⟨true, false⟩ = .ok p ∧ p.agrees p := by
  have h : (ofText "a==x*,b=in=(2,+1)" smallSchema "T" ⟨true, false⟩).toOption.any fun p =>
      p.text = "a=like=x*,b=in=(2,1)" ∧ p.nesting ≤ maxGroups := by
    decide +kernel
  cases hp : ofText "a==x*,b=in=(2,+1)" smallSchema "T" ⟨true, false⟩ with
  | error e =>
    rw [hp] at h
    cases h
  | ok p =>
    rw [hp] at h
    obtain ⟨htext, hn⟩ := of_decide_eq_true h
    exact ⟨p, rfl, htext, hn, (recompiles_text hp).1 hn⟩

end Predicate

end FilterQuery
