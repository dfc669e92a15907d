import FilterQuery.Proofs.Grammar.Source
import FilterQuery.Proofs.Grammar.Text
import Mathlib.Data.List.Forall2

/-!
# Formulas that are written as queries

A formula whose atoms are written as comparisons is written as a query that says the same, if its
groups have two parts or more. Written so, each group that is part of another stands in parentheses,
whatever the connectives, so its groups are as deep as the formula is nested.

* `Writes` : lexemes make up a text, with nothing between them;
* `Alternatives.joined` : items with the mark of a connective between them;
* `IsWritten` : the texts of the atoms of a formula are comparisons;
* `ofText_render`, `ofText_render_too_deep` : the query of the text of a formula.
-/

set_option autoImplicit false

namespace FilterQuery.Grammar

/-! ### Texts without blanks -/

/-- The lexemes make up the text. -/
structure Writes (ls : List Lexeme) (text : List Char) : Prop where
  sources : sources ls = text
  proper : ∀ l ∈ ls, l.IsProper

theorem Writes.singleton {l : Lexeme} (h : l.IsProper) : Writes [l] l.source :=
  ⟨List.append_nil _, List.forall_mem_singleton.2 h⟩

theorem Writes.append {ls ms : List Lexeme} {text text' : List Char} (h : Writes ls text)
    (h' : Writes ms text') : Writes (ls ++ ms) (text ++ text') := by
  constructor
  · rw [sources_append, h.sources, h'.sources]
  · exact List.forall_mem_append.2 ⟨h.proper, h'.proper⟩

theorem Writes.cons {l : Lexeme} {ls : List Lexeme} {text : List Char} (hl : l.IsProper)
    (h : Writes ls text) : Writes (l :: ls) (l.source ++ text) := (singleton hl).append h

theorem Writes.intercalate {mark : Lexeme} (hm : mark.IsProper) {lss : List (List Lexeme)}
    {texts : List (List Char)} (h : List.Forall₂ Writes lss texts) :
    Writes ([mark].intercalate lss) (mark.source.intercalate texts) := by
  induction h with
  | nil => exact ⟨rfl, List.forall_mem_nil _⟩
  | cons hw h ih =>
    cases h with
    | nil =>
      rw [List.intercalate_singleton, List.intercalate_singleton]
      exact hw
    | cons hw' h =>
      rw [List.intercalate_cons_cons, List.intercalate_cons_cons]
      exact (hw.append (singleton hm)).append ih

theorem Alternatives.munch_of_writes {d : Alternatives} {text : List Char}
    (h : Writes d.lexemes text) : Lexeme.Munch (String.ofList text).toList d.lexemes := by
  rw [String.toList_ofList, ← h.sources]
  exact Alternatives.munch h.proper

/-! ### Items with marks between them -/

/-- The lexeme of a connective. -/
def markOf : Connective → Lexeme
  | .and => .semicolon
  | .or => .comma

/-- Items with semicolons between them. -/
def Conjunction.ofItems : Item → List Item → Conjunction
  | item, [] => .one item
  | item, next :: rest => .and item (ofItems next rest)

/-- Items with commas between them. -/
def Alternatives.ofItems : Item → List Item → Alternatives
  | item, [] => .one (.one item)
  | item, next :: rest => .or (.one item) (ofItems next rest)

/-- Items with the mark of a connective between them. -/
def Alternatives.joined (c : Connective) (item : Item) (rest : List Item) : Alternatives :=
  match c with
  | .and => .one (.ofItems item rest)
  | .or => .ofItems item rest

theorem Conjunction.lexemes_ofItems : ∀ (item : Item) (rest : List Item),
    (ofItems item rest).lexemes = [.semicolon].intercalate ((item :: rest).map Item.lexemes)
  | item, [] => by
    rw [List.map_singleton, List.intercalate_singleton]
    rfl
  | item, next :: rest => by
    rw [List.map_cons, List.map_cons, List.intercalate_cons_cons, ofItems, Conjunction.lexemes_and,
      lexemes_ofItems next rest, List.append_cons, List.map_cons]

theorem Alternatives.lexemes_ofItems : ∀ (item : Item) (rest : List Item),
    (ofItems item rest).lexemes = [.comma].intercalate ((item :: rest).map Item.lexemes)
  | item, [] => by
    rw [List.map_singleton, List.intercalate_singleton]
    rfl
  | item, next :: rest => by
    rw [List.map_cons, List.map_cons, List.intercalate_cons_cons, ofItems, Alternatives.lexemes_or,
      lexemes_ofItems next rest, Conjunction.lexemes_one, List.append_cons, List.map_cons]

theorem Alternatives.lexemes_joined (c : Connective) (item : Item) (rest : List Item) :
    (joined c item rest).lexemes = [markOf c].intercalate ((item :: rest).map Item.lexemes) := by
  cases c with
  | and => exact Conjunction.lexemes_ofItems item rest
  | or => exact lexemes_ofItems item rest

theorem Conjunction.depth_ofItems : ∀ (item : Item) (rest : List Item),
    (ofItems item rest).depth = ((item :: rest).map Item.depth).foldr max 0
  | item, [] => by
    rw [ofItems, Conjunction.depth]
    exact (Nat.max_zero _).symm
  | item, next :: rest => by
    rw [ofItems, Conjunction.depth, depth_ofItems next rest]
    rfl

theorem Alternatives.depth_ofItems : ∀ (item : Item) (rest : List Item),
    (ofItems item rest).depth = ((item :: rest).map Item.depth).foldr max 0
  | item, [] => by
    rw [ofItems, Alternatives.depth, Conjunction.depth]
    exact (Nat.max_zero _).symm
  | item, next :: rest => by
    rw [ofItems, Alternatives.depth, Conjunction.depth, depth_ofItems next rest]
    rfl

theorem Alternatives.depth_joined (c : Connective) (item : Item) (rest : List Item) :
    (joined c item rest).depth = ((item :: rest).map Item.depth).foldr max 0 := by
  cases c with
  | and =>
    rw [joined, Alternatives.depth]
    exact Conjunction.depth_ofItems item rest
  | or => exact depth_ofItems item rest

theorem Conjunction.formulas_ofItems : ∀ (item : Item) (rest : List Item),
    (ofItems item rest).formulas = (item :: rest).map Item.formula
  | item, [] => by rw [ofItems, Conjunction.formulas, List.map_singleton]
  | item, next :: rest => by
    rw [ofItems, Conjunction.formulas, formulas_ofItems next rest, List.map_cons (a := item)]

theorem Alternatives.formulas_ofItems : ∀ (item : Item) (rest : List Item),
    (ofItems item rest).formulas = (item :: rest).map Item.formula
  | item, [] => by
    rw [ofItems, Alternatives.formulas, Conjunction.formulas, List.map_singleton, Formula.join]
  | item, next :: rest => by
    rw [ofItems, Alternatives.formulas, Conjunction.formulas, formulas_ofItems next rest,
      List.map_cons (a := item), Formula.join]

theorem Alternatives.formula_joined (c : Connective) (item : Item) {rest : List Item}
    (h : rest ≠ []) : (joined c item rest).formula = .group c ((item :: rest).map Item.formula) := by
  have hl : 2 ≤ ((item :: rest).map Item.formula).length := by
    have := List.length_pos_iff.2 h
    rw [List.length_map, List.length_cons]
    omega
  cases c with
  | and =>
    rw [joined, Alternatives.formula, Alternatives.formulas, Conjunction.formulas_ofItems,
      Formula.join_of_length hl, Formula.join]
  | or => rw [joined, Alternatives.formula, formulas_ofItems, Formula.join_of_length hl]

/-! ### Formulas -/

section Formulas

variable {α : Type} {leaf : α → List Char} {g : α → Comparison} {f : Formula α}

/-- The texts of the atoms are comparisons that say what `g` says. -/
def IsWritten (leaf : α → List Char) (g : α → Comparison) (f : Formula α) : Prop :=
  ∀ a ∈ f.atoms, ∃ c : Clause, Writes (Item.comparison c).lexemes (leaf a) ∧ c.comparison = g a

theorem IsWritten.part {c : Connective} {parts : List (Formula α)}
    (h : IsWritten leaf g (.group c parts)) {part : Formula α} (hp : part ∈ parts) :
    IsWritten leaf g part := by
  intro a ha
  exact h a (Formula.mem_atoms_group hp ha)

/-- The item writes the formula as a part of another. -/
structure Item.IsPart (leaf : α → List Char) (g : α → Comparison) (f : Formula α) (d : Item) :
    Prop where
  writes : Writes d.lexemes (f.renderPart leaf)
  formula : d.formula = f.map g
  depth : d.depth = f.height

/-- The query writes the formula. -/
structure Alternatives.IsWhole (leaf : α → List Char) (g : α → Comparison) (f : Formula α)
    (d : Alternatives) : Prop where
  writes : Writes d.lexemes (f.render leaf)
  formula : d.formula = f.map g
  depth : d.depth = f.nesting

theorem exists_isWhole_group (c : Connective) {parts : List (Formula α)} (hl : 2 ≤ parts.length)
    (h : ∀ part ∈ parts, ∃ d, Item.IsPart leaf g part d) :
    ∃ d, Alternatives.IsWhole leaf g (.group c parts) d := by
  match parts, hl with
  | first :: second :: rest, _ =>
    obtain ⟨d₀, -⟩ := h first List.mem_cons_self
    have : Nonempty Item := ⟨d₀⟩
    choose! d hd using h
    refine ⟨.joined c (d first) ((second :: rest).map d), ?_, ?_, ?_⟩
    · rw [Alternatives.lexemes_joined, ← List.map_cons, Formula.render_group, List.map_map]
      have hmark : (markOf c).IsProper ∧ (markOf c).source = [c.mark] := by
        cases c <;> exact ⟨trivial, rfl⟩
      have hparts : List.Forall₂ Writes ((first :: second :: rest).map (Item.lexemes ∘ d))
          ((first :: second :: rest).map (Formula.renderPart leaf)) := by
        rw [List.forall₂_map_left_iff, List.forall₂_map_right_iff, List.forall₂_same]
        intro part hp
        exact (hd part hp).writes
      rw [← hmark.2]
      exact Writes.intercalate hmark.1 hparts
    · have hparts : (first :: second :: rest).map (Item.formula ∘ d) =
          (first :: second :: rest).map (Formula.map g) := by
        apply List.map_congr_left
        intro part hp
        exact (hd part hp).formula
      rw [Alternatives.formula_joined _ _ (by simp), ← List.map_cons, List.map_map, hparts,
        Formula.map_group]
    · have hparts : (first :: second :: rest).map (Item.depth ∘ d) =
          (first :: second :: rest).map Formula.height := by
        apply List.map_congr_left
        intro part hp
        exact (hd part hp).depth
      rw [Alternatives.depth_joined, ← List.map_cons, List.map_map, hparts, Formula.nesting_group]

theorem exists_isPart (hb : f.IsBranching) (ha : IsWritten leaf g f) :
    ∃ d, Item.IsPart leaf g f d := by
  induction f using Formula.induction with
  | atom a =>
    obtain ⟨c, hw, hc⟩ := ha a List.mem_cons_self
    refine ⟨.comparison c, hw, ?_, by rw [Item.depth]; rfl⟩
    rw [Item.formula, hc]
    rfl
  | group c parts ih =>
    obtain ⟨hl, hb⟩ := (Formula.isBranching_group c parts).1 hb
    have hparts : ∀ part ∈ parts, ∃ d, Item.IsPart leaf g part d := by
      intro part hp
      exact ih part hp (hb part hp) (ha.part hp)
    obtain ⟨d, hd⟩ := exists_isWhole_group c hl hparts
    refine ⟨.group d, ?_, ?_, ?_⟩
    · rw [Item.lexemes_group, Formula.renderPart]
      exact (Writes.cons (l := .openParen) trivial hd.writes).append
        (.singleton (l := .closeParen) trivial)
    · rw [Item.formula, ← hd.formula, Alternatives.formula]
    · rw [Item.depth, hd.depth, Formula.nesting_group, Formula.height_group]

theorem exists_isWhole (hb : f.IsBranching) (ha : IsWritten leaf g f) :
    ∃ d, Alternatives.IsWhole leaf g f d := by
  cases f with
  | atom a =>
    obtain ⟨d, hd⟩ := exists_isPart hb ha
    refine ⟨.one (.one d), hd.writes, ?_, ?_⟩
    · rw [Alternatives.formula, Alternatives.formulas, Conjunction.formulas, ← hd.formula]
      rfl
    · rw [Alternatives.depth, Conjunction.depth, hd.depth]
      rfl
  | group c parts =>
    obtain ⟨hl, hb⟩ := (Formula.isBranching_group c parts).1 hb
    apply exists_isWhole_group c hl
    intro part hp
    exact exists_isPart (hb part hp) (ha.part hp)

/-- The text of a formula that is not nested too deeply is a query that says the same. -/
theorem ofText_render (hb : f.IsBranching) (ha : IsWritten leaf g f) (hn : f.nesting ≤ maxGroups) :
    ∃ q, Query.ofText (String.ofList (f.render leaf)) = .ok q ∧ q.bare = f.map g := by
  obtain ⟨d, hd⟩ := exists_isWhole hb ha
  have hmunch := Alternatives.munch_of_writes hd.writes
  have hdepth : d.depth ≤ maxGroups := by
    rw [hd.depth]
    exact hn
  rw [← hd.formula]
  exact Alternatives.Derives.exists_query ⟨hmunch, hdepth⟩

/-- The text of a formula that is nested too deeply is refused. -/
theorem ofText_render_too_deep (hb : f.IsBranching) (ha : IsWritten leaf g f)
    (hn : maxGroups < f.nesting) :
    ∃ span, Query.ofText (String.ofList (f.render leaf)) =
      .error ⟨.grammatical ⟨.fewerGroups, .token .openGroup "(", span⟩,
        String.ofList (f.render leaf)⟩ := by
  obtain ⟨d, hd⟩ := exists_isWhole hb ha
  have hmunch := Alternatives.munch_of_writes hd.writes
  have hdepth : maxGroups < d.depth := by
    rw [hd.depth]
    exact hn
  exact Alternatives.ofText_too_deep hmunch hdepth

end Formulas

end FilterQuery.Grammar
