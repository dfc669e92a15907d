import FilterQuery.Proofs.Grammar.Contexts
import FilterQuery.Proofs.Grammar.Source
import FilterQuery.Proofs.Grammar.Text

/-!
# Queries that are put together

Texts of queries can be put in parentheses and joined by the marks of "and" and "or".

* `Scans` : the tokens of a text in a context, and the context after it;
* `Yields` : a text whose tokens are an item, or alternatives, of the grammar;
* `Yields.group`, `Yields.and`, `Yields.or` : texts of items and alternatives, put together;
* `ofText_group`, `ofText_and`, `ofText_or` : what a query in parentheses and two queries that are
  joined are read as.
-/

set_option autoImplicit false

namespace FilterQuery

/-- The query with all places `n` bytes further on. -/
def Query.shift (n : Nat) (q : Query) : Query := q.map (Placed.place (Span.shift n))

namespace Query

theorem shift_shift (m n : Nat) (q : Query) : (q.shift m).shift n = q.shift (m + n) := by
  rw [shift, shift, shift, Formula.map_map]
  congr 1
  funext p
  simp [Placed.place, Span.shift, Function.comp_def, Nat.add_assoc]

theorem bare_shift (n : Nat) (q : Query) : (q.shift n).bare = q.bare := q.bare_place _

theorem shift_join (n : Nat) (c : Connective) (parts : List Query) :
    shift n (.join c parts) = .join c (parts.map (shift n)) := Formula.map_join ..

end Query

namespace Grammar
open Query.Reading
open Token (classify)

/-! ### Tokens of texts that are put together -/

/-- The lexemes of a text, read in the context `c`, are `tokens` and leave the context `c'`. -/
def Scans (c : Context) (text : List Char) (tokens : List Token) (c' : Context) : Prop :=
  ∃ placed, Lexeme.cut text = .ok placed ∧ classify c placed = tokens ∧
    c.after placed = c'

/-- The tokens `n` bytes further on. -/
def shiftTokens (n : Nat) (tokens : List Token) : List Token :=
  tokens.map (Token.place (Span.shift n))

theorem after_append (c : Context) (before after : List (Nat × Lexeme)) :
    c.after (before ++ after) = (c.after before).after after :=
  List.foldl_append

theorem after_shiftBy (n : Nat) (c : Context) (placed : List (Nat × Lexeme)) :
    c.after (Lexeme.shiftBy n placed) = c.after placed := by
  rw [Context.after, Lexeme.shiftBy, List.foldl_map]
  rfl

theorem Ends.stops_lexeme {rest : List Char} (h : Ends rest) (l : Lexeme) : l.Stops rest := by
  cases l with
  | word text => exact h.stops (.word text)
  | operator symbol =>
    intro heq
    have := h '=' heq
    simp at this
  | quoted _ _ | openParen | closeParen | semicolon | comma => trivial

theorem Scans.append {c mid c' : Context} {text rest : List Char} {tokens others : List Token}
    (h : Scans c text tokens mid) (hr : Scans mid rest others c') (hends : Ends rest) :
    Scans c (text ++ rest) (tokens ++ shiftTokens (byteLength text) others) c' := by
  obtain ⟨placed, hcut, rfl, rfl⟩ := h
  obtain ⟨placed', hcut', rfl, rfl⟩ := hr
  refine ⟨placed ++ Lexeme.shiftBy (byteLength text) placed', ?_, ?_, ?_⟩
  · have hrest := Lexeme.cutFrom_add (byteLength text) hcut'
    rw [Lexeme.cut, Lexeme.cutFrom_append hcut fun x _ => hends.stops_lexeme x.2, hrest]
    rfl
  · rw [classify_append, classify_shiftBy, shiftTokens]
  · rw [after_append, after_shiftBy]

/-- Lexemes of one character, which nothing that follows makes longer. -/
def marks : List Lexeme := [.openParen, .closeParen, .semicolon, .comma]

/-- The token of a mark at the start of a text. -/
def markToken (c : Context) (mark : Lexeme) : Token :=
  ⟨(c.read mark).1, String.ofList mark.content, ⟨0, byteLength mark.source⟩⟩

theorem Scans.mark {c c' : Context} {l : Lexeme} {rest : List Char} {tokens : List Token}
    (hmark : l ∈ marks) (h : Scans (c.read l).2 rest tokens c') :
    Scans c (l.source ++ rest)
      (markToken c l :: shiftTokens (byteLength l.source) tokens) c' := by
  have hproper : l.IsProper ∧ l.Stops rest := by
    simp only [marks, List.mem_cons, List.not_mem_nil, or_false] at hmark
    rcases hmark with rfl | rfl | rfl | rfl
    all_goals exact ⟨trivial, trivial⟩
  have hlongest := (Lexeme.first?_eq_some_iff.1 (Lexeme.first?_append hproper.1 hproper.2)).1
  obtain ⟨placed, hcut, rfl, rfl⟩ := h
  refine ⟨(0, l) :: Lexeme.shiftBy (byteLength l.source) placed, ?_, ?_, ?_⟩
  · have hrest := Lexeme.cutFrom_add (byteLength l.source) hcut
    rw [Lexeme.cut, Lexeme.cutFrom_lexeme hlongest, hrest]
    rfl
  · rw [classify_cons, classify_shiftBy]
    rfl
  · rw [Context.after, List.foldl_cons, ← Context.after, after_shiftBy]

theorem shiftTokens_shiftTokens (m n : Nat) (tokens : List Token) :
    shiftTokens n (shiftTokens m tokens) = shiftTokens (m + n) tokens := by
  rw [shiftTokens, shiftTokens, List.map_map]
  apply List.map_congr_left
  intro t _
  simp [Token.place, Span.shift, Nat.add_assoc]

/-- Texts with the mark of a connective between them. -/
theorem Scans.join {text rest : List Char} {tokens others : List Token} {mark : Lexeme}
    (h : Scans .expression text tokens .expression)
    (hr : Scans .expression rest others .expression) (hmark : mark = .semicolon ∨ mark = .comma) :
    ∃ t, t.kind = (Context.expression.read mark).1 ∧
      Scans .expression (text ++ (mark.source ++ rest))
        (tokens ++ t :: shiftTokens (byteLength text + 1) others) .expression := by
  have hshift : shiftTokens (byteLength text) (shiftTokens 1 others) =
      shiftTokens (byteLength text + 1) others := by
    rw [shiftTokens_shiftTokens, Nat.add_comm]
  rw [← hshift]
  rcases hmark with rfl | rfl
  · have hmarked := Scans.mark (c := .expression) (l := .semicolon) (by decide) hr
    exact ⟨_, rfl, h.append hmarked (ends_cons (by decide))⟩
  · have hmarked := Scans.mark (c := .expression) (l := .comma) (by decide) hr
    exact ⟨_, rfl, h.append hmarked (ends_cons (by decide))⟩

theorem scans_nil (c : Context) : Scans c [] [] c :=
  ⟨[], by rw [Lexeme.cut, Lexeme.cutFrom], rfl, rfl⟩

/-! ### Texts of items and alternatives -/

/-- The tokens of the text follow the rule, and leave to expect what a query starts with. -/
def Yields (rule : List Token → Prop) (text : List Char) : Prop :=
  ∃ tokens, Scans .expression text tokens .expression ∧ rule tokens

theorem IsAlternatives.append {m n : Nat} {tokens rest : List Token} {parts others : List Query}
    {mark : Token} : IsAlternatives m tokens parts → mark.kind = .or →
      IsAlternatives n rest others →
      IsAlternatives (max m n) (tokens ++ mark :: rest) (parts ++ others)
  | .one h, hm, ho => .or h hm ho
  | .or h hm' ha, hm, ho => by
    have := IsAlternatives.or h hm' (ha.append hm ho)
    rwa [← Nat.max_assoc, ← List.cons_append, ← List.append_assoc] at this

section Yields

variable {text rest : List Char} {depth m n : Nat} {q q' : Query} {parts others : List Query}

theorem Yields.group (h : Yields (IsAlternatives depth · parts) text) :
    Yields (IsItem (depth + 1) · (Query.shift 1 (.join .or parts))) ('(' :: text ++ [')']) := by
  obtain ⟨tokens, hscan, ha⟩ := h
  have hclose : Scans .expression [')'] [markToken .expression .closeParen] .expression :=
    Scans.mark (l := .closeParen) (by decide) (scans_nil .expression)
  have hinner := hscan.append hclose (ends_cons (by decide))
  have hwhole := Scans.mark (c := .expression) (l := .openParen) (by decide) hinner
  refine ⟨_, hwhole, ?_⟩
  have hmoved := ha.map (respects_place (Span.shift 1))
  rw [Query.shift_join, shiftTokens, List.map_append]
  exact .group rfl hmoved rfl

theorem Yields.single (h : Yields (IsItem depth · q) text) :
    Yields (IsAlternatives depth · [q]) text := by
  obtain ⟨tokens, hscan, hi⟩ := h
  exact ⟨tokens, hscan, .one (.one hi)⟩

theorem Yields.and (h : Yields (IsItem m · q) text) (h' : Yields (IsItem n · q') rest) :
    Yields (IsAlternatives (max m n) · [.join .and [q, q'.shift (byteLength text + 1)]])
      (text ++ ';' :: rest) := by
  obtain ⟨tokens, hscan, hi⟩ := h
  obtain ⟨others, hscan', hi'⟩ := h'
  obtain ⟨t, ht, hwhole⟩ := hscan.join hscan' (.inl rfl)
  have hmoved := hi'.map (respects_place (Span.shift (byteLength text + 1)))
  exact ⟨_, hwhole, .one (.and hi ht (.one hmoved))⟩

theorem Yields.or (h : Yields (IsAlternatives m · parts) text)
    (h' : Yields (IsAlternatives n · others) rest) :
    Yields (IsAlternatives (max m n) ·
        (parts ++ others.map (Query.shift (byteLength text + 1)))) (text ++ ',' :: rest) := by
  obtain ⟨tokens, hscan, ha⟩ := h
  obtain ⟨tokens', hscan', ha'⟩ := h'
  obtain ⟨t, ht, hwhole⟩ := hscan.join hscan' (.inr rfl)
  have hmoved := ha'.map (respects_place (Span.shift (byteLength text + 1)))
  exact ⟨_, hwhole, ha.append ht hmoved⟩

/-! ### Texts of queries -/

theorem Alternatives.formulas_ne_nil (d : Alternatives) : d.formulas ≠ [] := by
  cases d <;> rw [Alternatives.formulas] <;> exact List.cons_ne_nil _ _

theorem Yields.ofText {text : String} (h : Yields (IsAlternatives depth · parts) text.toList)
    (hd : depth ≤ maxGroups) : Query.ofText text = .ok (.join .or parts) := by
  obtain ⟨tokens, ⟨placed, hcut, rfl, -⟩, ha⟩ := h
  have hread := IsQuery.ofTokens ⟨depth, parts, ha, hd, rfl⟩
  exact ofText_eq_ok.2 ⟨_, tokenOfText_eq_ok.2 ⟨placed, hcut, rfl⟩, hread⟩

/-- After the tokens of a query stands what starts one. -/
theorem after_of_ofTokens {placed : List (Nat × Lexeme)}
    (h : Query.ofTokens (classify .expression placed) = .ok q) :
    Context.after .expression placed = .expression := by
  obtain ⟨s, hr, hf⟩ := ofTokens_eq_ok.1 h
  have hcontext : Context.after .expression placed = s.mode.context :=
    context_of_runs (s := Query.Reading.start) hr
  obtain ⟨level, outer, mode⟩ := s
  cases mode with
  | afterItem => exact hcontext
  | item | operator _ | arguments _ | value _ _ _ | afterValue _ _ _ => cases hf

/-- The alternatives of a query are what its derivation says they are. -/
theorem exists_yields {text : String} {d : Alternatives} (h : Query.ofText text = .ok q)
    (hd : d.Derives text) : ∃ parts, Yields (IsAlternatives d.depth · parts) text.toList ∧
      q = .join .or parts ∧ parts.map Query.bare = d.formulas := by
  obtain ⟨tokens, ht, hsense⟩ := Alternatives.exists_tokens hd.1
  obtain ⟨parts, ha, hparts⟩ := Alternatives.isAlternatives hsense
  have hread := IsQuery.ofTokens ⟨d.depth, parts, ha, hd.2, rfl⟩
  have hq : q = .join .or parts := by
    have := ofText_eq_ok.2 ⟨tokens, ht, hread⟩
    rw [h] at this
    exact Except.ok.inj this
  obtain ⟨placed, hcut, rfl⟩ := tokenOfText_eq_ok.1 ht
  exact ⟨parts, ⟨_, ⟨placed, hcut, rfl, after_of_ofTokens hread⟩, ha⟩, hq, hparts⟩

end Yields

section Texts

variable {t₁ t₂ : String} {q₁ q₂ : Query} {d₁ d₂ : Alternatives} {parts₁ parts₂ : List Query}

/-- A query in parentheses. -/
theorem ofText_group (h : Yields (IsAlternatives d₁.depth · parts₁) t₁.toList)
    (hd : d₁.depth < maxGroups) :
    Query.ofText ("(" ++ t₁ ++ ")") = .ok (Query.shift 1 (.join .or parts₁)) := by
  have hgroup : Yields (IsAlternatives (d₁.depth + 1) · [Query.shift 1 (.join .or parts₁)])
      ("(" ++ t₁ ++ ")").toList := by
    rw [String.toList_append, String.toList_append]
    exact h.group.single
  exact hgroup.ofText hd

/-- Two queries in parentheses, joined by "and". -/
theorem ofText_and (h₁ : Yields (IsAlternatives d₁.depth · parts₁) t₁.toList)
    (h₂ : Yields (IsAlternatives d₂.depth · parts₂) t₂.toList) (hd₁ : d₁.depth < maxGroups)
    (hd₂ : d₂.depth < maxGroups) :
    Query.ofText ("(" ++ t₁ ++ ");(" ++ t₂ ++ ")") =
      .ok (.group .and [Query.shift 1 (.join .or parts₁),
        Query.shift (byteLength t₁.toList + 4) (.join .or parts₂)]) := by
  have hand := h₁.group.and h₂.group
  have htext : '(' :: t₁.toList ++ [')'] ++ ';' :: ('(' :: t₂.toList ++ [')']) =
      ("(" ++ t₁ ++ ");(" ++ t₂ ++ ")").toList := by
    simp [String.toList_append]
  have hlength : 1 + (byteLength ('(' :: t₁.toList ++ [')']) + 1) = byteLength t₁.toList + 4 := by
    rw [byteLength_append, byteLength_cons, byteLength_cons, byteLength_nil]
    have hopen : '('.utf8Size = 1 := rfl
    have hclose : ')'.utf8Size = 1 := rfl
    omega
  rw [htext, Query.shift_shift, hlength] at hand
  exact hand.ofText (Nat.max_le.2 ⟨hd₁, hd₂⟩)

/-- Two queries, joined by "or". -/
theorem ofText_or (h₁ : Yields (IsAlternatives d₁.depth · parts₁) t₁.toList)
    (h₂ : Yields (IsAlternatives d₂.depth · parts₂) t₂.toList) (hd₁ : d₁.depth ≤ maxGroups)
    (hd₂ : d₂.depth ≤ maxGroups) :
    Query.ofText (t₁ ++ "," ++ t₂) =
      .ok (.join .or (parts₁ ++ parts₂.map (Query.shift (byteLength t₁.toList + 1)))) := by
  have hor := h₁.or h₂
  have htext : t₁.toList ++ ',' :: t₂.toList = (t₁ ++ "," ++ t₂).toList := by
    simp [String.toList_append]
  rw [htext] at hor
  exact hor.ofText (Nat.max_le.2 ⟨hd₁, hd₂⟩)

end Texts
end Grammar
end FilterQuery
