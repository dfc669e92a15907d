import FilterQuery.Proofs.Grammar.Rendered

/-!
# Queries and their canonical texts

* `IsSelector`, `exists_clause_bare`, `exists_clause_list` : comparisons that can be written;
* `Comparison.IsWritable` : the selector is a word and the arguments suit the operator, which holds of
  all comparisons that are read;
* `Query.reads_text_iff` : the canonical text of a query reads back unless it is nested too deeply,
  which may happen although the text that it was read from was not.
-/

set_option autoImplicit false

namespace FilterQuery.Grammar

/-! ### Comparisons that can be written -/

/-- The text can stand as a selector. -/
structure IsSelector (selector : String) : Prop where
  proper : (Lexeme.word selector.toList).IsProper
  named : ∀ segment ∈ selector.toList.splitOn '.', segment ≠ []

section Clauses

variable {selector : String} {op : Operator}

theorem isSpelling_symbol (op : Operator) : op.IsSpelling (String.ofList op.symbol.toList) := by
  rw [String.ofList_toList]
  exact .inl rfl

theorem exists_clause (hs : IsSelector selector) {a : Arguments} (ha : a.Suits op.arity)
    {text : List Char} (hw : Writes a.lexemes text) :
    ∃ c : Clause, Writes (Item.comparison c).lexemes
        (selector.toList ++ op.symbol.toList ++ text) ∧
      c.comparison = ⟨selector, op, a.operands.map Operand.content⟩ := by
  refine ⟨⟨selector.toList, op, op.symbol.toList, a, hs.named, isSpelling_symbol op, ha⟩, ?_, ?_⟩
  · rw [Item.lexemes_comparison, List.append_assoc]
    exact .cons hs.proper (.cons (isProper_symbol op) hw)
  · rw [Clause.comparison, String.ofList_toList]

/-- A comparison with one value that stands alone. -/
theorem exists_clause_bare (hs : IsSelector selector) (hop : op.arity ≠ .pair) (value : String) :
    ∃ c : Clause, Writes (Item.comparison c).lexemes
        (selector.toList ++ op.symbol.toList ++ quoteIfNeeded value.toList) ∧
      c.comparison = ⟨selector, op, [value]⟩ := by
  have hw : Writes (Arguments.bare (.ofValue value.toList)).lexemes
      (quoteIfNeeded value.toList) := by
    rw [← Operand.source_ofValue]
    exact .singleton (Operand.isProper_ofValue _)
  obtain ⟨c, hc, hcomp⟩ := exists_clause hs (show (Arguments.bare _).Suits op.arity from hop) hw
  refine ⟨c, hc, hcomp.trans ?_⟩
  rw [Arguments.operands, List.map_singleton, Operand.content_ofValue, String.ofList_toList]

theorem Arguments.map_valueRoles : ∀ (first : Operand) (others : List Operand),
    (valueRoles first others).map Prod.snd =
      [.comma].intercalate ((first :: others).map fun o => [o.lexeme])
  | _, [] => rfl
  | v, w :: others => by
    rw [List.map_cons, List.map_cons, List.intercalate_cons_cons, valueRoles, List.map_cons,
      List.map_cons, map_valueRoles w others, List.map_cons]
    rfl

/-- A comparison with values in parentheses. -/
theorem exists_clause_list (hs : IsSelector selector) (hop : op.arity ≠ .single)
    {values : List String} (hne : values ≠ []) (hp : op.arity = .pair → values.length = 2) :
    ∃ c : Clause, Writes (Item.comparison c).lexemes (selector.toList ++ op.symbol.toList ++
        ('(' :: [','].intercalate (values.map fun v => quoteIfNeeded v.toList) ++ [')'])) ∧
      c.comparison = ⟨selector, op, values⟩ := by
  obtain ⟨first, others, rfl⟩ := List.exists_cons_of_ne_nil hne
  let operand (v : String) := Operand.ofValue v.toList
  have hsuits : (Arguments.list (operand first) (others.map operand)).Suits op.arity := by
    refine ⟨hop, ?_⟩
    intro h
    have := hp h
    rw [List.length_cons] at this
    rw [List.length_map]
    omega
  have hcomma : Lexeme.comma.IsProper := trivial
  have hvalues : Writes ((Arguments.valueRoles (operand first) (others.map operand)).map Prod.snd)
      ([','].intercalate ((first :: others).map fun v => quoteIfNeeded v.toList)) := by
    rw [Arguments.map_valueRoles, ← List.map_cons, List.map_map]
    apply Writes.intercalate hcomma
    rw [List.forall₂_map_left_iff, List.forall₂_map_right_iff, List.forall₂_same]
    intro v _
    rw [← Operand.source_ofValue]
    exact .singleton (Operand.isProper_ofValue _)
  have hw : Writes (Arguments.list (operand first) (others.map operand)).lexemes
      ('(' :: [','].intercalate ((first :: others).map fun v => quoteIfNeeded v.toList) ++
        [')']) := by
    rw [Arguments.lexemes_list]
    exact (Writes.cons (l := .openParen) trivial hvalues).append
      (.singleton (l := .closeParen) trivial)
  obtain ⟨c, hc, hcomp⟩ := exists_clause hs hsuits hw
  refine ⟨c, hc, hcomp.trans ?_⟩
  have hcontent (v : String) : (operand v).content = v := by
    rw [Operand.content_ofValue, String.ofList_toList]
  rw [Arguments.operands, ← List.map_cons, List.map_map]
  exact congrArg _ (List.map_id'' hcontent _)

end Clauses

/-! ### Comparisons that are read can be written -/

/-- The selector is a word without empty segments, and the operator takes as many arguments. -/
structure IsWritable (c : Comparison) : Prop where
  selector : IsSelector c.selector
  ne_nil : c.arguments ≠ []
  single : c.operator.arity = .single → c.arguments.length = 1
  pair : c.operator.arity = .pair → c.arguments.length = 2

theorem Arguments.length_operands {a : Arguments} {arity : Arity} (h : a.Suits arity) :
    a.operands ≠ [] ∧ (arity = .single → a.operands.length = 1) ∧
      (arity = .pair → a.operands.length = 2) := by
  cases a with
  | bare v => exact ⟨List.cons_ne_nil _ _, fun _ => rfl, fun hp => absurd hp h⟩
  | list first others =>
    refine ⟨List.cons_ne_nil _ _, ?_, ?_⟩
    · intro hs
      exact absurd hs h.1
    · intro hp
      rw [operands, List.length_cons, h.2 hp]

theorem Clause.isWritable {c : Clause} (h : ∀ l ∈ (Item.comparison c).lexemes, l.IsProper) :
    IsWritable c.comparison := by
  obtain ⟨hne, hs, hp⟩ := Arguments.length_operands c.suited
  constructor
  · constructor
    · rw [Clause.comparison, String.toList_ofList]
      exact h _ List.mem_cons_self
    · rw [Clause.comparison, String.toList_ofList]
      exact c.named
  · intro hnil
    exact hne (List.map_eq_nil_iff.1 hnil)
  · intro harity
    rw [Clause.comparison, List.length_map]
    exact hs harity
  · intro harity
    rw [Clause.comparison, List.length_map]
    exact hp harity

theorem forall_atoms_join {P : Comparison → Prop} {c : Connective}
    {parts : List (Formula Comparison)} (h : ∀ part ∈ parts, ∀ a ∈ part.atoms, P a) :
    ∀ a ∈ (Formula.join c parts).atoms, P a := by
  rw [Formula.atoms_join]
  intro a ha
  obtain ⟨part, hp, ha⟩ := List.mem_flatMap.1 ha
  exact h part hp a ha

mutual

theorem Item.isWritable : ∀ {d : Item}, (∀ l ∈ d.lexemes, l.IsProper) →
    ∀ c ∈ d.formula.atoms, IsWritable c
  | .comparison c, h => by
    rw [Item.formula, Formula.atoms_atom, List.forall_mem_singleton]
    exact Clause.isWritable h
  | .group parts, h => by
    rw [Item.lexemes_group, List.forall_mem_append, List.forall_mem_cons] at h
    rw [Item.formula]
    exact forall_atoms_join (Alternatives.isWritable h.1.2)

theorem Conjunction.isWritable : ∀ {d : Conjunction}, (∀ l ∈ d.lexemes, l.IsProper) →
    ∀ part ∈ d.formulas, ∀ c ∈ part.atoms, IsWritable c
  | .one item, h => by
    rw [Conjunction.formulas, List.forall_mem_singleton]
    exact Item.isWritable (d := item) h
  | .and item rest, h => by
    rw [Conjunction.lexemes_and, List.forall_mem_append, List.forall_mem_cons] at h
    rw [Conjunction.formulas, List.forall_mem_cons]
    exact ⟨Item.isWritable h.1, Conjunction.isWritable h.2.2⟩

theorem Alternatives.isWritable : ∀ {d : Alternatives}, (∀ l ∈ d.lexemes, l.IsProper) →
    ∀ part ∈ d.formulas, ∀ c ∈ part.atoms, IsWritable c
  | .one items, h => by
    rw [Alternatives.formulas, List.forall_mem_singleton]
    exact forall_atoms_join (Conjunction.isWritable (d := items) h)
  | .or items rest, h => by
    rw [Alternatives.lexemes_or, List.forall_mem_append, List.forall_mem_cons] at h
    rw [Alternatives.formulas, List.forall_mem_cons]
    exact ⟨forall_atoms_join (Conjunction.isWritable h.1), Alternatives.isWritable h.2.2⟩

end

theorem isWritable_of_ofText {text : String} {q : Query} (h : Query.ofText text = .ok q) :
    ∀ p ∈ q.atoms, IsWritable p.toComparison := by
  obtain ⟨d, hd, hf⟩ := exists_derives h
  have hall : ∀ c ∈ q.bare.atoms, IsWritable c := by
    rw [← hf]
    exact forall_atoms_join (Alternatives.isWritable hd.1.isProper)
  intro p hp
  apply hall
  rw [Query.bare, Formula.atoms_map]
  exact List.mem_map_of_mem hp

theorem length_spans_of_ofText {text : String} {q : Query} (h : Query.ofText text = .ok q) :
    ∀ p ∈ q.atoms, p.argumentSpans.length = p.arguments.length := by
  obtain ⟨tokens, -, ht⟩ := ofText_eq_ok.1 h
  exact (isQuery_of_ofTokens ht).length_spans

theorem isBranching_of_ofText {text : String} {q : Query} (h : Query.ofText text = .ok q) :
    q.IsBranching := by
  obtain ⟨tokens, -, ht⟩ := ofText_eq_ok.1 h
  exact (isQuery_of_ofTokens ht).isBranching

/-! ### The text of a query -/

/-- The text of a comparison that can be written says what the comparison says. -/
theorem IsWritable.exists_clause {c : Comparison} (h : IsWritable c) :
    ∃ clause : Clause, Writes (Item.comparison clause).lexemes c.text ∧ clause.comparison = c := by
  obtain ⟨selector, op, arguments⟩ := c
  obtain ⟨hs, hne, hsingle, hpair⟩ := h
  dsimp only at hs hne hsingle hpair
  unfold Comparison.text
  dsimp only
  match arguments, hne with
  | [only], _ =>
    have hop : op.arity ≠ .pair := fun hp => absurd (hpair hp) (by simp)
    rw [List.map_singleton]
    dsimp only
    rw [if_neg hop]
    exact exists_clause_bare hs hop only
  | first :: second :: rest, hne =>
    have hop : op.arity ≠ .single := fun hp => absurd (hsingle hp) (by simp)
    exact exists_clause_list hs hop hne hpair

theorem isWritten_of_ofText {text : String} {q : Query} (h : Query.ofText text = .ok q) :
    IsWritten (fun p => p.toComparison.text) Placed.toComparison q :=
  fun p hp => (isWritable_of_ofText h p hp).exists_clause

end FilterQuery.Grammar

namespace FilterQuery.Query
open Grammar

theorem exists_ofText_text {text : String} {q : Query} (h : ofText text = .ok q)
    (hn : q.nesting ≤ maxGroups) : ∃ q', ofText q.text = .ok q' ∧ q'.bare = q.bare :=
  ofText_render (isBranching_of_ofText h) (isWritten_of_ofText h) hn

theorem ofText_text_too_deep {text : String} {q : Query} (h : ofText text = .ok q)
    (hn : maxGroups < q.nesting) :
    ∃ span, ofText q.text =
      .error ⟨.grammatical ⟨.fewerGroups, .token .openGroup "(", span⟩, q.text⟩ :=
  ofText_render_too_deep (isBranching_of_ofText h) (isWritten_of_ofText h) hn

/-- A comparison. -/
def smallest : List Char := "a==1".toList

/-- Alternations of "or" and "and", with a group in parentheses for each two of them. -/
def nested : Nat → List Char
  | 0 => smallest
  | n + 1 => smallest ++ ',' :: (smallest ++ ';' :: ('(' :: nested n ++ [')']))

/-- A text in parentheses, with a comparison joined to it by "and" and another one by "or". -/
def enclosed (text : List Char) : List Char :=
  smallest ++ ',' :: (smallest ++ ';' :: ('(' :: text ++ [')']))

theorem exists_writes_smallest : ∃ c : Clause, Writes (Item.comparison c).lexemes smallest ∧
    c.comparison = ⟨"a", .equal, ["1"]⟩ := by
  have hs : IsSelector "a" := by
    refine ⟨⟨by decide, List.all_eq_true.1 (by decide)⟩, ?_⟩
    exact List.forall_mem_singleton.2 (by decide)
  exact exists_clause_bare hs (show Operator.equal.arity ≠ .pair by decide) "1"

/-- What encloses a text adds one pair of parentheses and two groups. -/
theorem exists_writes_enclosed {d : Alternatives} {text : List Char} (hd : Writes d.lexemes text) :
    ∃ d' : Alternatives, Writes d'.lexemes (enclosed text) ∧ d'.depth = d.depth + 1 ∧
      d'.formula.height = d.formula.height + 2 ∧
      ∀ c ∈ d'.formula.atoms, c ∈ d.formula.atoms ∨ c = ⟨"a", .equal, ["1"]⟩ := by
  obtain ⟨c, hc, hcomparison⟩ := exists_writes_smallest
  have hgroup : Writes (Item.group d).lexemes ('(' :: text ++ [')']) := by
    rw [Item.lexemes_group]
    exact (Writes.cons (l := .openParen) trivial hd).append
      (.singleton (l := .closeParen) trivial)
  have hformula : (Item.group d).formula = d.formula := by rw [Item.formula, Alternatives.formula]
  refine ⟨.or (.one (.comparison c)) (.one (.and (.comparison c) (.one (.group d)))),
    ?_, ?_, ?_, ?_⟩
  · rw [Alternatives.lexemes_or, Alternatives.lexemes_one, Conjunction.lexemes_and]
    exact hc.append (.cons (l := .comma) trivial
      (hc.append (.cons (l := .semicolon) trivial hgroup)))
  · simp only [Alternatives.depth, Conjunction.depth, Item.depth]
    omega
  · rw [← hformula]
    simp only [Alternatives.formula, Alternatives.formulas, Conjunction.formulas,
      Item.formula, Formula.join, Formula.height_group, List.map_cons, List.map_nil,
      List.foldr_cons, List.foldr_nil, Formula.height_atom]
    omega
  · intro b hb
    simp only [Alternatives.formula, Alternatives.formulas, Conjunction.formulas, Item.formula,
      Formula.join, Formula.atoms_group, List.flatMap_cons, List.flatMap_nil, Formula.atoms_atom,
      hcomparison, List.mem_append, List.mem_singleton, List.not_mem_nil, or_false] at hb ⊢
    tauto

theorem exists_writes_nested (n : Nat) :
    ∃ d : Alternatives, Writes d.lexemes (nested n) ∧ d.depth = n ∧ d.formula.height = 2 * n := by
  induction n with
  | zero =>
    obtain ⟨c, hc, -⟩ := exists_writes_smallest
    refine ⟨.one (.one (.comparison c)), hc, ?_, ?_⟩
    · rw [Alternatives.depth, Conjunction.depth, Item.depth]
    · rw [Alternatives.formula, Alternatives.formulas, Conjunction.formulas, Item.formula]
      rfl
  | succ n ih =>
    obtain ⟨d, hd, hdepth, hheight⟩ := ih
    obtain ⟨d', hd', hdepth', hheight', -⟩ := exists_writes_enclosed hd
    refine ⟨d', hd', ?_, ?_⟩ <;> omega

theorem exists_ofText_nested (n : Nat) (hn : n ≤ maxGroups) :
    ∃ q, ofText (String.ofList (nested n)) = .ok q ∧ q.nesting = 2 * n - 1 := by
  obtain ⟨d, hd, hdepth, hheight⟩ := exists_writes_nested n
  obtain ⟨q, hq, hb⟩ := Alternatives.Derives.exists_query
    ⟨Alternatives.munch_of_writes hd, hdepth.trans_le hn⟩
  refine ⟨q, hq, ?_⟩
  rw [← hheight, ← hb, bare, Formula.height_map, Formula.nesting]

/-- The canonical text of a query reads back as the same query if it is nested at most `maxGroups`
deep, and is refused at a parenthesis else. -/
theorem reads_text_iff {text : String} {q : Query} (h : ofText text = .ok q) :
    ((∃ q', ofText q.text = .ok q' ∧ q'.bare = q.bare) ↔ q.nesting ≤ maxGroups) ∧
      (maxGroups < q.nesting → ∃ span, ofText q.text =
        .error ⟨.grammatical ⟨.fewerGroups, .token .openGroup "(", span⟩, q.text⟩) := by
  refine ⟨⟨?_, exists_ofText_text h⟩, ofText_text_too_deep h⟩
  rintro ⟨q', hq', -⟩
  by_contra hn
  obtain ⟨span, he⟩ := ofText_text_too_deep h (Nat.lt_of_not_le hn)
  rw [he] at hq'
  cases hq'

theorem reads_text_single :
    ∃ q, ofText (String.ofList (nested 0)) = .ok q ∧
      ∃ q', ofText q.text = .ok q' ∧ q'.bare = q.bare := by
  obtain ⟨q, hq, hn⟩ := exists_ofText_nested 0 (Nat.zero_le _)
  exact ⟨q, hq, (reads_text_iff hq).1.2 (by rw [hn]; decide)⟩

/-- A query that is read, but whose text is not. -/
theorem text_too_deep :
    ∃ q, ofText (String.ofList (nested 65)) = .ok q ∧
      ¬ ∃ q', ofText q.text = .ok q' ∧ q'.bare = q.bare := by
  obtain ⟨q, hq, hn⟩ := exists_ofText_nested 65 (by decide)
  refine ⟨q, hq, ?_⟩
  rintro ⟨q', hq', -⟩
  obtain ⟨span, he⟩ := ofText_text_too_deep hq (by rw [hn]; decide)
  rw [he] at hq'
  cases hq'

end FilterQuery.Query
