import FilterQuery.Proofs.Lexeme.Munch
import FilterQuery.Query.Reader

/-!
# Derivations of queries

The trees by which lexemes derive from the grammar of queries, whatever reads them.

* `Operand`, `Arguments`, `Clause` : the values of a comparison, and a comparison whose parts fit
  together;
* `Item`, `Conjunction`, `Alternatives` : the trees, with `roles`, their lexemes and what each is
  there, `depth`, the most groups around a comparison, and `formula`, what they say;
* `Alternatives.Derives` : a tree of the lexemes of a text;
* `Alternatives.lexemes_injective` : the lexemes of a tree belong to no other tree.
-/

set_option autoImplicit false

namespace FilterQuery.Grammar

/-- A lexeme and what it is where it stands. -/
abbrev Role := TokenKind × Lexeme

/-! ### Comparisons -/

/-- A value as it is written. -/
inductive Operand where
  | word (text : List Char)
  | quoted (mark : Char) (body : List Char)
deriving DecidableEq

namespace Operand

/-- The lexeme that writes a value. -/
def lexeme : Operand → Lexeme
  | word text => .word text
  | quoted mark body => .quoted mark body

/-- The value that is meant. -/
def content (o : Operand) : String := String.ofList o.lexeme.content

end Operand

/-- The arguments of an operator: a value, or values in parentheses. -/
inductive Arguments where
  | bare (value : Operand)
  | list (first : Operand) (others : List Operand)
deriving DecidableEq

namespace Arguments

/-- The values. -/
def operands : Arguments → List Operand
  | bare value => [value]
  | list first others => first :: others

/-- The lexemes of values with separators between them, and what each is. -/
def valueRoles : Operand → List Operand → List Role
  | v, [] => [(.value, v.lexeme)]
  | v, w :: others => (.value, v.lexeme) :: (.separator, .comma) :: valueRoles w others

/-- The lexemes, and what each is. -/
def roles : Arguments → List Role
  | bare value => [(.value, value.lexeme)]
  | list first others =>
    (.openGroup, .openParen) :: valueRoles first others ++ [(.closeGroup, .closeParen)]

/-- An operator of the given arity takes the arguments. -/
def Suits : Arguments → Arity → Prop
  | bare _, arity => arity ≠ .pair
  | list _ others, arity => arity ≠ .single ∧ (arity = .pair → others.length = 1)

/-- The lexemes. -/
def lexemes (a : Arguments) : List Lexeme := a.roles.map Prod.snd

end Arguments

/-- A comparison as it is written. -/
structure Clause where
  selector : List Char
  operator : Operator
  symbol : List Char
  arguments : Arguments
  named : ∀ segment ∈ selector.splitOn '.', segment ≠ []
  spelled : operator.IsSpelling (String.ofList symbol)
  suited : arguments.Suits operator.arity

namespace Clause

/-- The lexemes, and what each is. -/
def roles (c : Clause) : List Role :=
  (.selector, .word c.selector) :: (.operator, .operator c.symbol) :: c.arguments.roles

/-- What a clause says. -/
def comparison (c : Clause) : Comparison :=
  ⟨String.ofList c.selector, c.operator, c.arguments.operands.map Operand.content⟩

end Clause

/-! ### Trees -/

mutual

/-- A comparison, or a group in parentheses. -/
inductive Item where
  | comparison (c : Clause)
  | group (parts : Alternatives)

/-- Items with semicolons between them. -/
inductive Conjunction where
  | one (item : Item)
  | and (item : Item) (rest : Conjunction)

/-- Conjunctions with commas between them. -/
inductive Alternatives where
  | one (items : Conjunction)
  | or (items : Conjunction) (rest : Alternatives)

end

mutual

/-- The lexemes, and what each is. -/
def Item.roles : Item → List Role
  | .comparison c => c.roles
  | .group parts => (.openGroup, .openParen) :: parts.roles ++ [(.closeGroup, .closeParen)]

/-- The lexemes, and what each is. -/
def Conjunction.roles : Conjunction → List Role
  | .one item => item.roles
  | .and item rest => item.roles ++ (.and, .semicolon) :: rest.roles

/-- The lexemes, and what each is. -/
def Alternatives.roles : Alternatives → List Role
  | .one items => items.roles
  | .or items rest => items.roles ++ (.or, .comma) :: rest.roles

end

mutual

/-- The most groups around a comparison. -/
def Item.depth : Item → Nat
  | .comparison _ => 0
  | .group parts => parts.depth + 1

/-- The most groups around a comparison. -/
def Conjunction.depth : Conjunction → Nat
  | .one item => item.depth
  | .and item rest => max item.depth rest.depth

/-- The most groups around a comparison. -/
def Alternatives.depth : Alternatives → Nat
  | .one items => items.depth
  | .or items rest => max items.depth rest.depth

end

mutual

/-- What an item says. -/
def Item.formula : Item → Formula Comparison
  | .comparison c => .atom c.comparison
  | .group parts => .join .or parts.formulas

/-- What each of the items says. -/
def Conjunction.formulas : Conjunction → List (Formula Comparison)
  | .one item => [item.formula]
  | .and item rest => item.formula :: rest.formulas

/-- What each of the conjunctions says. -/
def Alternatives.formulas : Alternatives → List (Formula Comparison)
  | .one items => [.join .and items.formulas]
  | .or items rest => .join .and items.formulas :: rest.formulas

end

/-- What a query says: a group of two or more alternatives, or the only one. -/
def Alternatives.formula (d : Alternatives) : Formula Comparison := .join .or d.formulas

/-- The lexemes of an item. -/
def Item.lexemes (d : Item) : List Lexeme := d.roles.map Prod.snd

/-- The lexemes of a conjunction. -/
def Conjunction.lexemes (d : Conjunction) : List Lexeme := d.roles.map Prod.snd

/-- The lexemes of a query. -/
def Alternatives.lexemes (d : Alternatives) : List Lexeme := d.roles.map Prod.snd

/-- A tree of the lexemes of a text, with at most `maxGroups` groups around each comparison. -/
def Alternatives.Derives (d : Alternatives) (text : String) : Prop :=
  Lexeme.Munch text.toList d.lexemes ∧ d.depth ≤ maxGroups

section Lexemes

variable (o first : Operand) (others : List Operand) (c : Clause) (item : Item)
  (items : Conjunction) (rest : Conjunction) (parts : Alternatives)

@[simp] theorem Arguments.lexemes_bare : (Arguments.bare o).lexemes = [o.lexeme] := rfl

@[simp] theorem Arguments.lexemes_list : (Arguments.list first others).lexemes =
    .openParen :: (Arguments.valueRoles first others).map Prod.snd ++ [.closeParen] := by
  rw [Arguments.lexemes, Arguments.roles, List.map_append, List.map_cons]
  rfl

@[simp] theorem Item.lexemes_comparison : (Item.comparison c).lexemes =
    .word c.selector :: .operator c.symbol :: c.arguments.lexemes := rfl

@[simp] theorem Item.lexemes_group : (Item.group parts).lexemes =
    .openParen :: parts.lexemes ++ [.closeParen] := by
  rw [Item.lexemes, Item.roles, List.map_append, List.map_cons]
  rfl

@[simp] theorem Conjunction.lexemes_one : (Conjunction.one item).lexemes = item.lexemes := rfl

@[simp] theorem Conjunction.lexemes_and : (Conjunction.and item rest).lexemes =
    item.lexemes ++ .semicolon :: rest.lexemes := by
  rw [Conjunction.lexemes, Conjunction.roles, List.map_append, List.map_cons]
  rfl

@[simp] theorem Alternatives.lexemes_one :
    (Alternatives.one items).lexemes = items.lexemes := rfl

@[simp] theorem Alternatives.lexemes_or : (Alternatives.or items parts).lexemes =
    items.lexemes ++ .comma :: parts.lexemes := by
  rw [Alternatives.lexemes, Alternatives.roles, List.map_append, List.map_cons]
  rfl

end Lexemes

/-! ### The lexemes of a tree belong to no other tree -/

theorem Operand.lexeme_injective {a b : Operand} (h : a.lexeme = b.lexeme) : a = b := by
  cases a <;> cases b <;> cases h <;> rfl

theorem Operand.lexeme_ne_openParen (o : Operand) : o.lexeme ≠ .openParen := by
  intro h
  cases o <;> cases h

theorem Arguments.valueRoles_append_inj : ∀ {v w : Operand} {vs ws : List Operand}
    {r s : List Lexeme}, r.head? ≠ some .comma → s.head? ≠ some .comma →
      (valueRoles v vs).map Prod.snd ++ r = (valueRoles w ws).map Prod.snd ++ s →
      v = w ∧ vs = ws ∧ r = s
  | _, _, [], [], _, _, _, _, h => by
    obtain ⟨hv, hr⟩ := List.cons.inj h
    exact ⟨Operand.lexeme_injective hv, rfl, hr⟩
  | _, _, [], _ :: _, r, _, hr, _, h => by
    obtain ⟨-, rfl⟩ := List.cons.inj h
    exact absurd rfl hr
  | _, _, _ :: _, [], _, s, _, hs, h => by
    obtain ⟨-, rfl⟩ := List.cons.inj h
    exact absurd rfl hs
  | _, _, _ :: _, _ :: _, r, s, hr, hs, h => by
    obtain ⟨hv, h⟩ := List.cons.inj h
    obtain ⟨rfl, rfl, hrs⟩ := valueRoles_append_inj hr hs (List.cons.inj h).2
    exact ⟨Operand.lexeme_injective hv, rfl, hrs⟩

theorem Arguments.lexemes_append_inj {a b : Arguments} {r s : List Lexeme}
    (h : a.lexemes ++ r = b.lexemes ++ s) : a = b ∧ r = s := by
  cases a with
  | bare v =>
    cases b with
    | bare w =>
      obtain ⟨hv, hr⟩ := List.cons.inj h
      exact ⟨by rw [Operand.lexeme_injective hv], hr⟩
    | list first others =>
      rw [lexemes_list] at h
      exact absurd (List.cons.inj h).1 v.lexeme_ne_openParen
  | list first others =>
    cases b with
    | bare w =>
      rw [lexemes_list] at h
      exact absurd (List.cons.inj h).1.symm w.lexeme_ne_openParen
    | list first' others' =>
      rw [lexemes_list, lexemes_list, List.cons_append, List.cons_append, List.append_assoc,
        List.append_assoc] at h
      obtain ⟨rfl, rfl, hr⟩ := valueRoles_append_inj (by simp) (by simp) (List.cons.inj h).2
      exact ⟨rfl, (List.cons.inj hr).2⟩

theorem Clause.ext_of_source {c d : Clause} (hs : c.selector = d.selector)
    (ho : c.symbol = d.symbol) (ha : c.arguments = d.arguments) : c = d := by
  have hop : c.operator = d.operator := by
    have h := Operator.ofSpelling?_eq_some_iff.2 c.spelled
    rw [ho, Operator.ofSpelling?_eq_some_iff.2 d.spelled] at h
    exact (Option.some.inj h).symm
  cases c
  cases d
  cases hs
  cases ho
  cases ha
  cases hop
  rfl

mutual

/-- Where an item ends can be told from its lexemes alone. -/
theorem Item.lexemes_append_inj : ∀ {a b : Item} {r s : List Lexeme},
    a.lexemes ++ r = b.lexemes ++ s → a = b ∧ r = s
  | .comparison c, .comparison d, r, s, h => by
    obtain ⟨hs, h⟩ := List.cons.inj h
    obtain ⟨ho, h⟩ := List.cons.inj h
    obtain ⟨ha, hr⟩ := Arguments.lexemes_append_inj h
    exact ⟨by rw [Clause.ext_of_source (Lexeme.word.inj hs) (Lexeme.operator.inj ho) ha], hr⟩
  | .comparison _, .group _, _, _, h => by
    rw [Item.lexemes_comparison, Item.lexemes_group] at h
    cases h
  | .group _, .comparison _, _, _, h => by
    rw [Item.lexemes_comparison, Item.lexemes_group] at h
    cases h
  | .group a, .group b, r, s, h => by
    rw [Item.lexemes_group, Item.lexemes_group, List.cons_append, List.cons_append,
      List.append_assoc, List.append_assoc] at h
    obtain ⟨rfl, hr⟩ := Alternatives.lexemes_append_inj (by simp) (by simp) (by simp) (by simp)
      (List.cons.inj h).2
    exact ⟨rfl, (List.cons.inj hr).2⟩

/-- A conjunction ends where no semicolon follows. -/
theorem Conjunction.lexemes_append_inj : ∀ {a b : Conjunction} {r s : List Lexeme},
    r.head? ≠ some .semicolon → s.head? ≠ some .semicolon →
      a.lexemes ++ r = b.lexemes ++ s → a = b ∧ r = s
  | .one a, .one b, r, s, _, _, h => by
    obtain ⟨rfl, hr⟩ := Item.lexemes_append_inj h
    exact ⟨rfl, hr⟩
  | .one a, .and b rest, r, s, hr, _, h => by
    rw [Conjunction.lexemes_one, Conjunction.lexemes_and, List.append_assoc] at h
    obtain ⟨-, rfl⟩ := Item.lexemes_append_inj h
    exact absurd rfl hr
  | .and a rest, .one b, r, s, _, hs, h => by
    rw [Conjunction.lexemes_one, Conjunction.lexemes_and, List.append_assoc] at h
    obtain ⟨-, rfl⟩ := Item.lexemes_append_inj h
    exact absurd rfl hs
  | .and a rest, .and b rest', r, s, hr, hs, h => by
    rw [Conjunction.lexemes_and, Conjunction.lexemes_and, List.append_assoc, List.append_assoc] at h
    obtain ⟨rfl, ht⟩ := Item.lexemes_append_inj h
    obtain ⟨rfl, hrs⟩ := Conjunction.lexemes_append_inj hr hs (List.cons.inj ht).2
    exact ⟨rfl, hrs⟩

/-- Alternatives end where neither a semicolon nor a comma follows. -/
theorem Alternatives.lexemes_append_inj : ∀ {a b : Alternatives} {r s : List Lexeme},
    r.head? ≠ some .semicolon → s.head? ≠ some .semicolon → r.head? ≠ some .comma →
      s.head? ≠ some .comma → a.lexemes ++ r = b.lexemes ++ s → a = b ∧ r = s
  | .one a, .one b, r, s, hr, hs, _, _, h => by
    obtain ⟨rfl, hrs⟩ := Conjunction.lexemes_append_inj hr hs h
    exact ⟨rfl, hrs⟩
  | .one a, .or b rest, r, s, hr, _, hr', _, h => by
    rw [Alternatives.lexemes_one, Alternatives.lexemes_or, List.append_assoc] at h
    obtain ⟨-, rfl⟩ := Conjunction.lexemes_append_inj hr (by simp) h
    exact absurd rfl hr'
  | .or a rest, .one b, r, s, _, hs, _, hs', h => by
    rw [Alternatives.lexemes_one, Alternatives.lexemes_or, List.append_assoc] at h
    obtain ⟨-, rfl⟩ := Conjunction.lexemes_append_inj (by simp) hs h
    exact absurd rfl hs'
  | .or a rest, .or b rest', r, s, hr, hs, hr', hs', h => by
    rw [Alternatives.lexemes_or, Alternatives.lexemes_or, List.append_assoc, List.append_assoc] at h
    obtain ⟨rfl, ht⟩ := Conjunction.lexemes_append_inj (by simp) (by simp) h
    obtain ⟨rfl, hrs⟩ := Alternatives.lexemes_append_inj hr hs hr' hs' (List.cons.inj ht).2
    exact ⟨rfl, hrs⟩

end

theorem Alternatives.lexemes_injective {a b : Alternatives} (h : a.lexemes = b.lexemes) :
    a = b := by
  rw [← List.append_nil a.lexemes, ← List.append_nil b.lexemes] at h
  exact (Alternatives.lexemes_append_inj (by simp) (by simp) (by simp) (by simp) h).1

theorem Alternatives.Derives.unique {a b : Alternatives} {text : String} (ha : a.Derives text)
    (hb : b.Derives text) : a = b := by
  have hlexemes : a.lexemes = b.lexemes := ha.1.unique hb.1
  exact Alternatives.lexemes_injective hlexemes

end FilterQuery.Grammar
