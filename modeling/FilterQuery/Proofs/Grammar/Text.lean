import FilterQuery.Diagnosis
import FilterQuery.Proofs.Grammar.Reached
import FilterQuery.Proofs.Grammar.Roles

/-!
# Texts and their derivations

* `exists_derives`, `Alternatives.Derives.exists_query` : a query has a derivation, and a text with
  a derivation is a query that says the same;
* `Alternatives.ofText_too_deep` : a derivation with too many groups around a comparison;
* `ofText_iff_derives` : a text is a query exactly if it has a derivation, and it has one only.
-/

set_option autoImplicit false

namespace FilterQuery.Grammar

theorem ofText_of_tokens {text : String} {tokens : List Token} (h : Token.ofText text = .ok tokens) :
    Query.ofText text = (Query.ofTokens tokens).mapError (⟨.grammatical ·, text⟩) := by
  unfold Query.ofText
  rw [h]

theorem ofText_eq_ok {text : String} {q : Query} : Query.ofText text = .ok q ↔
    ∃ tokens, Token.ofText text = .ok tokens ∧ Query.ofTokens tokens = .ok q := by
  constructor
  · intro h
    cases ht : Token.ofText text with
    | error e =>
      unfold Query.ofText at h
      rw [ht] at h
      cases h
    | ok tokens =>
      rw [ofText_of_tokens ht] at h
      exact ⟨tokens, rfl, mapError_eq_ok.1 h⟩
  · rintro ⟨tokens, ht, h⟩
    rw [ofText_of_tokens ht]
    exact mapError_eq_ok.2 h

theorem ofText_eq_error {text : String} {e : QueryError} : Query.ofText text = .error e ↔
    (∃ cause, Token.ofText text = .error cause ∧ e = ⟨.lexical cause, text⟩) ∨
      ∃ tokens cause, Token.ofText text = .ok tokens ∧ Query.ofTokens tokens = .error cause ∧
        e = ⟨.grammatical cause, text⟩ := by
  cases ht : Token.ofText text with
  | error cause =>
    unfold Query.ofText
    rw [ht]
    simp [eq_comm]
  | ok tokens =>
    rw [ofText_of_tokens ht, mapError_eq_error]
    simp [eq_comm]

theorem tokenOfText_eq_ok {text : String} {tokens : List Token} : Token.ofText text = .ok tokens ↔
    ∃ placed, Lexeme.cut text.toList = .ok placed ∧ Token.classify .expression placed = tokens := by
  unfold Token.ofText
  rw [map_eq_ok]

theorem exists_derives {text : String} {q : Query} (h : Query.ofText text = .ok q) :
    ∃ d : Alternatives, d.Derives text ∧ d.formula = q.bare := by
  obtain ⟨tokens, ht, hq⟩ := ofText_eq_ok.1 h
  obtain ⟨placed, hp, rfl⟩ := tokenOfText_eq_ok.1 ht
  obtain ⟨depth, parts, ha, hd, rfl⟩ := isQuery_of_ofTokens hq
  obtain ⟨roles, c', hr, hs⟩ := exists_reads .expression placed
  obtain ⟨-, d, rfl, rfl, hf⟩ := ha.exists_alternatives hr (hr.classify hs.symm)
  have hmunch : Lexeme.Munch text.toList d.lexemes :=
    Lexeme.munch_iff_cut.2 ⟨placed, hp, hs.symm⟩
  refine ⟨d, ⟨hmunch, hd⟩, ?_⟩
  rw [Alternatives.formula, hf, bare_join]

/-- The tokens of a text with a derivation are what the derivation says. -/
theorem Alternatives.exists_tokens {d : Alternatives} {text : String}
    (h : Lexeme.Munch text.toList d.lexemes) :
    ∃ tokens, Token.ofText text = .ok tokens ∧ tokens.map tokenSense = d.roles.map roleSense := by
  obtain ⟨placed, hp, hs⟩ := Lexeme.munch_iff_cut.1 h
  exact ⟨_, tokenOfText_eq_ok.2 ⟨placed, hp, rfl⟩, d.reads.classify hs⟩

theorem Alternatives.Derives.exists_query {d : Alternatives} {text : String} (h : d.Derives text) :
    ∃ q, Query.ofText text = .ok q ∧ q.bare = d.formula := by
  obtain ⟨tokens, ht, hs⟩ := Alternatives.exists_tokens h.1
  obtain ⟨qs, ha, hq⟩ := Alternatives.isAlternatives hs
  have hread : Query.ofTokens tokens = .ok (.join .or qs) :=
    IsQuery.ofTokens ⟨d.depth, qs, ha, h.2, rfl⟩
  refine ⟨.join .or qs, ofText_eq_ok.2 ⟨tokens, ht, hread⟩, ?_⟩
  rw [bare_join, hq, Alternatives.formula]

theorem Reads.openParen_of_mem {c c' : Context} {roles : List Role} {l : Lexeme}
    (h : Reads c roles c') (hm : (.openGroup, l) ∈ roles) : l = .openParen := by
  induction h with
  | nil => cases hm
  | cons hread _ ih =>
    rcases List.mem_cons.1 hm with heq | hm
    · obtain ⟨rfl, rfl⟩ := Prod.mk.inj heq
      exact (explains_of_read hread).1
    · exact ih hm

/-- A derivation with too many groups around a comparison is refused at one of them. -/
theorem Alternatives.ofText_too_deep {d : Alternatives} {text : String}
    (h : Lexeme.Munch text.toList d.lexemes) (hd : maxGroups < d.depth) :
    ∃ span, Query.ofText text =
      .error ⟨.grammatical ⟨.fewerGroups, .token .openGroup "(", span⟩, text⟩ := by
  obtain ⟨tokens, ht, hs⟩ := Alternatives.exists_tokens h
  obtain ⟨qs, ha, -⟩ := Alternatives.isAlternatives hs
  obtain ⟨t, hmem, hk, he⟩ := ha.ofTokens_too_deep hd
  have hrole : tokenSense t ∈ d.roles.map roleSense := by
    rw [← hs]
    exact List.mem_map_of_mem hmem
  obtain ⟨⟨kind, l⟩, hr, hsense⟩ := List.mem_map.1 hrole
  obtain ⟨hkind, hx⟩ := Prod.mk.inj hsense
  obtain rfl := hkind.trans hk
  obtain rfl := d.reads.openParen_of_mem hr
  refine ⟨t.span, ?_⟩
  rw [ofText_of_tokens ht, he, Query.unexpected, hk, ← hx]
  rfl

/-- A text is a query exactly if its lexemes, each the longest at its place, derive from the grammar
with at most `maxGroups` groups around each comparison. There is one derivation then, the query says
what it says, and each token is of the kind that its lexeme has in the derivation. -/
theorem ofText_iff_derives (text : String) :
    ((∃ q, Query.ofText text = .ok q) ↔ ∃ d : Alternatives, d.Derives text) ∧
      ∀ d : Alternatives, d.Derives text →
        (∀ e : Alternatives, e.Derives text → e = d) ∧
        (∃ q, Query.ofText text = .ok q ∧ q.bare = d.formula) ∧
        ∃ tokens, Token.ofText text = .ok tokens ∧
          tokens.map (fun t => (t.kind, t.text)) =
            d.roles.map fun r => (r.1, String.ofList r.2.content) := by
  refine ⟨⟨?_, ?_⟩, ?_⟩
  · rintro ⟨q, h⟩
    obtain ⟨d, hd, -⟩ := exists_derives h
    exact ⟨d, hd⟩
  · rintro ⟨d, hd⟩
    obtain ⟨q, hq, -⟩ := hd.exists_query
    exact ⟨q, hq⟩
  · intro d hd
    refine ⟨?_, hd.exists_query, Alternatives.exists_tokens hd.1⟩
    intro e he
    exact he.unique hd

end FilterQuery.Grammar
