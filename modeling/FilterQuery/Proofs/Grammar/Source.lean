import FilterQuery.Proofs.Grammar.Derivation
import FilterQuery.Quoting

/-!
# The text of a derivation

The lexemes of a derivation can be written one after the other, with nothing in between, and are cut
as they were written.

* `Operand.ofValue` : a value with quotes if it needs them;
* `sources` : lexemes one after the other;
* `Alternatives.munch` : cutting the lexemes of a derivation finds them again.
-/

set_option autoImplicit false

namespace FilterQuery.Grammar
open Lexeme (IsProper IsBody Munch Stops)

/-! ### Values -/

theorem isBody_escape (value : List Char) : IsBody '"' (value.flatMap escapeQuoted) := by
  induction value with
  | nil => exact .nil
  | cons c value ih =>
    rw [List.flatMap_cons, escapeQuoted]
    split
    · exact .escaped ih
    · next h =>
      obtain ⟨hq, hb⟩ := not_or.1 h
      exact .plain hq hb ih

theorem unescape_escape (value : List Char) : unescape (value.flatMap escapeQuoted) = value := by
  induction value with
  | nil => rfl
  | cons c value ih =>
    rw [List.flatMap_cons, escapeQuoted]
    split
    · rw [List.cons_append, List.cons_append, List.nil_append, unescape, ih]
    · next h =>
      obtain ⟨-, hb⟩ := not_or.1 h
      rw [List.singleton_append, unescape.eq_4 _ _ (fun h _ => hb h) (fun _ _ h _ => hb h), ih]

/-- A value with quotes if it needs them. -/
def Operand.ofValue (value : List Char) : Operand :=
  if value ≠ [] ∧ value.all isPlain then .word value else .quoted '"' (value.flatMap escapeQuoted)

theorem Operand.source_ofValue (value : List Char) :
    (ofValue value).lexeme.source = quoteIfNeeded value := by
  unfold ofValue quoteIfNeeded
  split <;> rfl

theorem Operand.content_ofValue (value : List Char) :
    (ofValue value).content = String.ofList value := by
  unfold ofValue
  split
  · rfl
  · show String.ofList (unescape _) = _
    rw [unescape_escape]

theorem isWordChar_of_isPlain {c : Char} (h : isPlain c) : isWordChar c := by
  simp only [isPlain, Bool.and_eq_true] at h
  exact h.1.1

theorem Operand.isProper_ofValue (value : List Char) : (ofValue value).lexeme.IsProper := by
  unfold ofValue
  split
  · next h => exact ⟨h.1, fun c hc => isWordChar_of_isPlain (List.all_eq_true.1 h.2 c hc)⟩
  · exact ⟨.inl rfl, isBody_escape value⟩

theorem isProper_symbol (op : Operator) : (Lexeme.operator op.symbol.toList).IsProper := by
  have h : op.symbol.toList ∈ Lexeme.signs ∨
      op.symbol.toList.tail.dropLast ≠ [] ∧ op.symbol.toList.tail.dropLast.all isLetter ∧
        op.symbol.toList = '=' :: op.symbol.toList.tail.dropLast ++ ['='] := by
    cases op <;> decide
  rcases h with h | ⟨hne, hl, hs⟩
  · exact .inl h
  · exact .inr ⟨_, hne, List.all_eq_true.1 hl, hs⟩

/-! ### Lexemes one after the other -/

/-- The texts of lexemes, one after the other. -/
def sources (ls : List Lexeme) : List Char := ls.flatMap Lexeme.source

@[simp] theorem sources_nil : sources [] = [] := rfl

@[simp] theorem sources_cons (l : Lexeme) (ls : List Lexeme) :
    sources (l :: ls) = l.source ++ sources ls := List.flatMap_cons

@[simp] theorem sources_append (ls ms : List Lexeme) :
    sources (ls ++ ms) = sources ls ++ sources ms := List.flatMap_append

/-- The text can stand after a comparison. -/
def Ends (rest : List Char) : Prop := ∀ c ∈ rest.head?, c ∈ [')', ';', ',']

theorem ends_nil : Ends [] := fun c h => by cases h

theorem ends_cons {c : Char} {rest : List Char} (h : c ∈ [')', ';', ',']) : Ends (c :: rest) := by
  rintro _ ⟨⟩
  exact h

theorem Ends.stops {rest : List Char} (h : Ends rest) (o : Operand) : o.lexeme.Stops rest := by
  cases o with
  | word text =>
    intro c hc
    have := h c hc
    simp only [List.mem_cons, List.not_mem_nil, or_false] at this
    rcases this with rfl | rfl | rfl <;> decide
  | quoted mark body => trivial

theorem operator_head {symbol : List Char} (h : (Lexeme.operator symbol).IsProper)
    (rest : List Char) : ∀ c ∈ (symbol ++ rest).head?, isWordChar c = false := by
  rcases h with h | ⟨name, -, -, rfl⟩
  · simp only [Lexeme.signs, List.mem_cons, List.not_mem_nil, or_false] at h
    rcases h with rfl | rfl | rfl | rfl | rfl | rfl
    all_goals
      rintro _ ⟨⟩
      decide
  · rintro _ ⟨⟩
    decide

theorem Operand.source_head {o : Operand} (h : o.lexeme.IsProper) (rest : List Char) :
    (o.lexeme.source ++ rest).head? ≠ some '=' := by
  cases o with
  | word text =>
    obtain ⟨hne, hw⟩ := h
    obtain ⟨c, text, rfl⟩ := List.exists_cons_of_ne_nil hne
    rintro ⟨⟩
    exact absurd (hw '=' List.mem_cons_self) (by decide)
  | quoted mark body =>
    obtain ⟨rfl | rfl, -⟩ := h
    all_goals
      rintro ⟨⟩

theorem Arguments.source_head {a : Arguments} (h : ∀ l ∈ a.lexemes, l.IsProper)
    (rest : List Char) : (sources a.lexemes ++ rest).head? ≠ some '=' := by
  cases a with
  | bare v =>
    rw [lexemes_bare, List.forall_mem_singleton] at h
    rw [lexemes_bare, sources_cons, sources_nil, List.append_nil]
    exact v.source_head h rest
  | list first others =>
    rw [lexemes_list]
    rintro ⟨⟩

/-! ### Cutting the lexemes of a derivation -/

section Cutting

variable {rest : List Char} {ls : List Lexeme}

theorem Arguments.munch_values : ∀ {first : Operand} {others : List Operand},
    (∀ l ∈ (valueRoles first others).map Prod.snd, l.IsProper) → Ends rest → Munch rest ls →
      Munch (sources ((valueRoles first others).map Prod.snd) ++ rest)
        ((valueRoles first others).map Prod.snd ++ ls)
  | v, [], h, he, hm => by
    have := hm.cons (h v.lexeme List.mem_cons_self) (he.stops v)
    rwa [← List.append_nil v.lexeme.source] at this
  | v, w :: others, h, he, hm => by
    obtain ⟨hv, h⟩ := List.forall_mem_cons.1 h
    obtain ⟨-, h⟩ := List.forall_mem_cons.1 h
    have := ((munch_values h he hm).cons (l := .comma) trivial trivial).cons hv
      ((ends_cons (by decide)).stops v)
    rw [valueRoles, List.map_cons, List.map_cons, sources_cons, sources_cons, List.append_assoc,
      List.append_assoc]
    exact this

theorem Arguments.munch {a : Arguments} (h : ∀ l ∈ a.lexemes, l.IsProper) (he : Ends rest)
    (hm : Munch rest ls) : Munch (sources a.lexemes ++ rest) (a.lexemes ++ ls) := by
  cases a with
  | bare v =>
    have := hm.cons (h v.lexeme List.mem_cons_self) (he.stops v)
    rw [lexemes_bare, sources_cons, sources_nil, List.append_nil]
    exact this
  | list first others =>
    rw [lexemes_list] at h ⊢
    rw [List.forall_mem_append, List.forall_mem_cons] at h
    have := munch_values h.1.2 (ends_cons (by decide))
      (hm.cons (l := .closeParen) trivial trivial)
    rw [sources_append, sources_cons, sources_cons, sources_nil, List.append_nil, List.append_assoc,
      List.append_assoc, List.append_assoc]
    exact this.cons (l := .openParen) trivial trivial

theorem Clause.munch {c : Clause} (h : ∀ l ∈ (Item.comparison c).lexemes, l.IsProper)
    (he : Ends rest) (hm : Munch rest ls) :
    Munch (sources (Item.comparison c).lexemes ++ rest) ((Item.comparison c).lexemes ++ ls) := by
  rw [Item.lexemes_comparison, List.forall_mem_cons, List.forall_mem_cons] at h
  obtain ⟨hs, ho, ha⟩ := h
  have := ((Arguments.munch ha he hm).cons ho (Arguments.source_head ha rest)).cons hs
    (operator_head ho _)
  rw [Item.lexemes_comparison, sources_cons, sources_cons, List.append_assoc, List.append_assoc]
  exact this

mutual

theorem Item.munch : ∀ {d : Item} {rest : List Char} {ls : List Lexeme},
    (∀ l ∈ d.lexemes, l.IsProper) → Ends rest → Munch rest ls →
      Munch (sources d.lexemes ++ rest) (d.lexemes ++ ls)
  | .comparison _, _, _, h, he, hm => Clause.munch h he hm
  | .group parts, rest, ls, h, he, hm => by
    rw [Item.lexemes_group] at h ⊢
    rw [List.forall_mem_append, List.forall_mem_cons] at h
    have := Alternatives.munch_append h.1.2 (ends_cons (by decide))
      (hm.cons (l := .closeParen) trivial trivial)
    rw [sources_append, sources_cons, sources_cons, sources_nil, List.append_nil, List.append_assoc,
      List.append_assoc, List.append_assoc]
    exact this.cons (l := .openParen) trivial trivial

theorem Conjunction.munch : ∀ {d : Conjunction} {rest : List Char} {ls : List Lexeme},
    (∀ l ∈ d.lexemes, l.IsProper) → Ends rest → Munch rest ls →
      Munch (sources d.lexemes ++ rest) (d.lexemes ++ ls)
  | .one item, _, _, h, he, hm => Item.munch (d := item) h he hm
  | .and item others, rest, ls, h, he, hm => by
    rw [Conjunction.lexemes_and] at h ⊢
    rw [List.forall_mem_append, List.forall_mem_cons] at h
    have := (Conjunction.munch h.2.2 he hm).cons (l := .semicolon) trivial trivial
    rw [sources_append, sources_cons, List.append_assoc, List.append_assoc, List.append_assoc]
    exact Item.munch h.1 (ends_cons (by decide)) this

theorem Alternatives.munch_append : ∀ {d : Alternatives} {rest : List Char} {ls : List Lexeme},
    (∀ l ∈ d.lexemes, l.IsProper) → Ends rest → Munch rest ls →
      Munch (sources d.lexemes ++ rest) (d.lexemes ++ ls)
  | .one items, _, _, h, he, hm => Conjunction.munch (d := items) h he hm
  | .or items others, rest, ls, h, he, hm => by
    rw [Alternatives.lexemes_or] at h ⊢
    rw [List.forall_mem_append, List.forall_mem_cons] at h
    have := (Alternatives.munch_append h.2.2 he hm).cons (l := .comma) trivial trivial
    rw [sources_append, sources_cons, List.append_assoc, List.append_assoc, List.append_assoc]
    exact Conjunction.munch h.1 (ends_cons (by decide)) this

end

end Cutting

/-- The lexemes of a derivation, one after the other, are cut as they were written. -/
theorem Alternatives.munch {d : Alternatives} (h : ∀ l ∈ d.lexemes, l.IsProper) :
    Munch (sources d.lexemes) d.lexemes := by
  have := Alternatives.munch_append h ends_nil .nil
  rwa [List.append_nil, List.append_nil] at this

end FilterQuery.Grammar
