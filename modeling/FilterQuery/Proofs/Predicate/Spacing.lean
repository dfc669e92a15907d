import FilterQuery.Proofs.Grammar.Contexts
import FilterQuery.Proofs.Lexeme.Spacing
import FilterQuery.Proofs.Query.Unplaced

/-!
# Blanks do not matter

Wherever a token of a text begins or ends, blanks may be put in. They move the tokens and leave the rest
as it was: what the tokens are, the query, its predicate, and what is wrong with the query.

* `spaced` : a text with blanks put in;
* `QueryFault.unplaced` : what is wrong, but for its place;
* `QueryError.SameReport` : failures with the same report but for the places;
* `Token.ofText_spaced` : the tokens of a text with blanks put in;
* `Predicate.reads_spaced` : its query and its predicate.
-/

set_option autoImplicit false

namespace FilterQuery

/-- The text with `blanks n` put before the character at byte `n`, or at the end. -/
def spaced (blanks : Nat → List Char) (text : String) : String :=
  String.ofList (spread blanks 0 text.toList)

/-- Where a token is then. -/
def Span.respaced (blanks : Nat → List Char) (s : Span) : Span :=
  ⟨FilterQuery.respaced blanks s.offset, s.length⟩

/-- The fault with places that say nothing. -/
def QueryFault.unplaced : QueryFault → QueryFault
  | lexical e => lexical e
  | grammatical e => grammatical e.unplaced
  | semantic e => semantic e.unplaced

/-- What is reported of the failures is the same but for the places, which the wording gives too if the
failure is one of the grammar. -/
structure QueryError.SameReport (e e' : QueryError) : Prop where
  message : ∀ cause, e.fault = .semantic cause → e.message = e'.message
  code : e.code = e'.code
  help : e.help? = e'.help?
  labels : e.labels.map (·.2) = e'.labels.map (·.2)

theorem QueryFault.sameReport_of_unplaced {f f' : QueryFault} (h : f.unplaced = f'.unplaced)
    (source source' : String) : QueryError.SameReport ⟨f, source⟩ ⟨f', source'⟩ := by
  cases f with
  | lexical e =>
    cases f' with
    | lexical e' =>
      cases h
      exact ⟨nofun, rfl, rfl, rfl⟩
    | _ => cases h
  | grammatical e =>
    cases f' with
    | grammatical e' =>
      obtain ⟨expected, found, span⟩ := e
      obtain ⟨expected', found', span'⟩ := e'
      cases h
      exact ⟨nofun, rfl, rfl, rfl⟩
    | _ => cases h
  | semantic e =>
    cases f' with
    | semantic e' =>
      have hunplaced : e.unplaced = e'.unplaced := QueryFault.semantic.inj h
      have hsame := CompileError.sameReport_of_unplaced hunplaced
      exact ⟨fun _ _ => hsame.message, hsame.code, hsame.help, hsame.labels⟩
    | _ => cases h

/-- What is put into a text is blanks, and is not put into any of the tokens. -/
structure IsBetween (blanks : Nat → List Char) (tokens : List Token) : Prop where
  blank : ∀ n, ∀ c ∈ blanks n, isBlank c
  outside : ∀ t ∈ tokens, ∀ n, t.span.offset < n → n < t.span.stop → blanks n = []

variable {text : String} {tokens : List Token} {blanks : Nat → List Char}

/-! ### Tokens -/

theorem Token.ofText_spaced (h : ofText text = .ok tokens) (hb : IsBetween blanks tokens) :
    ofText (spaced blanks text) = .ok (tokens.map (Token.place (Span.respaced blanks))) := by
  obtain ⟨placed, hcut, rfl⟩ := Grammar.tokenOfText_eq_ok.1 h
  have hinside : ∀ x ∈ placed, ∀ n, x.1 < n → n < x.1 + byteLength x.2.source → blanks n = [] := by
    intro x hx
    have hspan : (⟨x.1, byteLength x.2.source⟩ : Span) ∈
        (classify .expression placed).map (·.span) := by
      rw [Grammar.map_span_classify]
      exact List.mem_map_of_mem hx
    obtain ⟨t, ht, htx⟩ := List.mem_map.1 hspan
    have houtside := hb.outside t ht
    rwa [htx] at houtside
  refine Grammar.tokenOfText_eq_ok.2 ⟨_, ?_, Grammar.classify_map (FilterQuery.respaced blanks) _ _⟩
  rw [spaced, String.toList_ofList]
  exact Lexeme.cutFrom_spread hcut hb.blank hinside

/-! ### Queries -/

namespace Query
open Grammar

theorem map_unplaced_place (f : Span → Span) (tokens : List Token) :
    (tokens.map (Token.place f)).map Token.unplaced = tokens.map Token.unplaced := by
  rw [List.map_map]
  rfl

theorem ofTokens_place {q : Query} (f : Span → Span) (h : ofTokens tokens = .ok q) :
    ofTokens (tokens.map (Token.place f)) = .ok (Formula.map (Placed.place f) q) :=
  ((isQuery_of_ofTokens h).map (respects_place f)).ofTokens

theorem ofTokens_place_error {e : SyntaxError} (f : Span → Span) (h : ofTokens tokens = .error e) :
    ∃ e', ofTokens (tokens.map (Token.place f)) = .error e' ∧ e'.unplaced = e.unplaced := by
  have hplaced := ofTokens_unplaced (tokens.map (Token.place f))
  rw [map_unplaced_place, ofTokens_unplaced, h] at hplaced
  obtain ⟨e', he', hunplaced⟩ := mapError_eq_error.1 hplaced.symm
  exact ⟨e', map_eq_error.1 he', hunplaced⟩

theorem ofText_spaced {q : Query} (ht : Token.ofText text = .ok tokens)
    (hb : IsBetween blanks tokens) (h : ofText text = .ok q) :
    ofText (spaced blanks text) = .ok (Formula.map (Placed.place (Span.respaced blanks)) q) := by
  rw [ofText_of_tokens ht] at h
  have hplace := ofTokens_place (Span.respaced blanks) (mapError_eq_ok.1 h)
  rw [ofText_of_tokens (Token.ofText_spaced ht hb), hplace]
  rfl

theorem ofText_spaced_error {e : QueryError} (ht : Token.ofText text = .ok tokens)
    (hb : IsBetween blanks tokens) (h : ofText text = .error e) :
    ∃ fault, ofText (spaced blanks text) = .error ⟨fault, spaced blanks text⟩ ∧
      fault.unplaced = e.fault.unplaced := by
  rw [ofText_of_tokens ht] at h
  obtain ⟨cause, hcause, rfl⟩ := mapError_eq_error.1 h
  obtain ⟨cause', hcause', hunplaced⟩ := ofTokens_place_error (Span.respaced blanks) hcause
  refine ⟨.grammatical cause', ?_, congrArg QueryFault.grammatical hunplaced⟩
  rw [ofText_of_tokens (Token.ofText_spaced ht hb), hcause']
  rfl

end Query

/-! ### Predicates -/

namespace Predicate

section

variable [PatternSize] {schema : Schema} {root : String} {options : Options}

theorem compile_spaced {q : Query} (schema : Schema) (root : String) (options : Options)
    (ht : Token.ofText text = .ok tokens) (hb : IsBetween blanks tokens)
    (hq : Query.ofText text = .ok q) :
    (Query.compile (Formula.map (Placed.place (Span.respaced blanks)) q) schema root
        options).mapError CompileError.unplaced =
      (q.compile schema root options).mapError CompileError.unplaced :=
  Query.compile_unplaced_of_ofText (Query.ofText_spaced ht hb hq) hq (q.bare_place _)

theorem ofText_spaced {p : Predicate} (ht : Token.ofText text = .ok tokens)
    (hb : IsBetween blanks tokens) (h : ofText text schema root options = .ok p) :
    ofText (spaced blanks text) schema root options = .ok p := by
  cases hq : Query.ofText text with
  | error e =>
    rw [ofText_eq_error.2 (.inl hq)] at h
    cases h
  | ok q =>
    rw [ofText_of_query hq] at h
    have hcompile := compile_spaced schema root options ht hb hq
    rw [mapError_eq_ok.1 h] at hcompile
    rw [ofText_of_query (Query.ofText_spaced ht hb hq), mapError_eq_ok.1 hcompile]
    rfl

theorem ofText_spaced_error {e : QueryError} (ht : Token.ofText text = .ok tokens)
    (hb : IsBetween blanks tokens) (h : ofText text schema root options = .error e) :
    ∃ fault, ofText (spaced blanks text) schema root options =
      .error ⟨fault, spaced blanks text⟩ ∧ fault.unplaced = e.fault.unplaced := by
  rcases ofText_eq_error.1 h with hq | ⟨q, cause, hq, hcause, rfl⟩
  · obtain ⟨fault, hfault, hunplaced⟩ := Query.ofText_spaced_error ht hb hq
    exact ⟨fault, ofText_eq_error.2 (.inl hfault), hunplaced⟩
  · have hcompile := compile_spaced schema root options ht hb hq
    rw [hcause] at hcompile
    obtain ⟨cause', hcause', hunplaced⟩ := mapError_eq_error.1 hcompile
    refine ⟨.semantic cause', ?_, congrArg QueryFault.semantic hunplaced⟩
    exact ofText_eq_error.2 (.inr ⟨_, cause', Query.ofText_spaced ht hb hq, hcause', rfl⟩)

/-- Blanks that are put between the tokens of a text, also where one token follows another at once, and
before and after them leave it the same tokens, further on by as much as is put before them. They leave
it the same query but for the places, or the same error and the same report but for its place, and the
same predicate. -/
theorem reads_spaced (ht : Token.ofText text = .ok tokens) (hb : IsBetween blanks tokens) :
    Token.ofText (spaced blanks text) = .ok (tokens.map (Token.place (Span.respaced blanks))) ∧
    (∀ q, Query.ofText text = .ok q → Query.ofText (spaced blanks text) =
      .ok (Formula.map (Placed.place (Span.respaced blanks)) q)) ∧
    (∀ e, Query.ofText text = .error e → ∃ fault,
      Query.ofText (spaced blanks text) = .error ⟨fault, spaced blanks text⟩ ∧
        fault.unplaced = e.fault.unplaced ∧ QueryError.SameReport ⟨fault, spaced blanks text⟩ e) ∧
    ∀ schema root options,
      (∀ p, ofText text schema root options = .ok p →
        ofText (spaced blanks text) schema root options = .ok p) ∧
      ∀ e, ofText text schema root options = .error e → ∃ fault,
        ofText (spaced blanks text) schema root options = .error ⟨fault, spaced blanks text⟩ ∧
          fault.unplaced = e.fault.unplaced ∧
          QueryError.SameReport ⟨fault, spaced blanks text⟩ e := by
  refine ⟨Token.ofText_spaced ht hb, ?_, ?_, ?_⟩
  · intro q hq
    exact Query.ofText_spaced ht hb hq
  · intro e he
    obtain ⟨fault, hfault, hunplaced⟩ := Query.ofText_spaced_error ht hb he
    exact ⟨fault, hfault, hunplaced, QueryFault.sameReport_of_unplaced hunplaced _ _⟩
  · intro schema root options
    constructor
    · intro p hp
      exact ofText_spaced ht hb hp
    · intro e he
      obtain ⟨fault, hfault, hunplaced⟩ := ofText_spaced_error ht hb he
      exact ⟨fault, hfault, hunplaced, QueryFault.sameReport_of_unplaced hunplaced _ _⟩

end

/-- Blanks before each token of a text without any, and after the last one. -/
theorem reads_spaced_adjacent : ∃ tokens p,
    Token.ofText "b>1;a==x" = .ok tokens ∧
    Token.ofText " \nb \n> \n1 \n; \na \n== \nx \n" =
      .ok (tokens.map (Token.place (Span.respaced fun n => if n = 6 then [] else [' ', '\n']))) ∧
    ofText "b>1;a==x" smallSchema "T" {} = .ok p ∧
    ofText " \nb \n> \n1 \n; \na \n== \nx \n" smallSchema "T" {} = .ok p := by
  let blanks : Nat → List Char := fun n => if n = 6 then [] else [' ', '\n']
  let tokens : List Token := [⟨.selector, "b", ⟨0, 1⟩⟩, ⟨.operator, ">", ⟨1, 1⟩⟩,
    ⟨.value, "1", ⟨2, 1⟩⟩, ⟨.and, ";", ⟨3, 1⟩⟩, ⟨.selector, "a", ⟨4, 1⟩⟩,
    ⟨.operator, "==", ⟨5, 2⟩⟩, ⟨.value, "x", ⟨7, 1⟩⟩]
  have ht : Token.ofText "b>1;a==x" = .ok tokens := by decide +kernel
  have hb : IsBetween blanks tokens := by
    refine ⟨?_, ?_⟩
    · intro n
      by_cases hn : n = 6
      · simp [blanks, hn]
      · simp [blanks, hn, isBlank]
    · have hinside : ∀ t ∈ tokens, t.span.stop ≤ t.span.offset + 1 ∨ t.span = ⟨5, 2⟩ := by decide
      intro t htok n hlt hgt
      have hn : n = 6 := by
        rcases hinside t htok with hstop | hspan
        · omega
        · rw [hspan] at hlt hgt
          simp only [Span.stop] at hlt hgt
          omega
      exact if_pos hn
  have htext : spaced blanks "b>1;a==x" = " \nb \n> \n1 \n; \na \n== \nx \n" := by decide +kernel
  obtain ⟨p, hp⟩ : ∃ p, ofText "b>1;a==x" smallSchema "T" {} = .ok p := by
    have hok : (ofText "b>1;a==x" smallSchema "T" {}).toOption.isSome := by decide +kernel
    cases hp : ofText "b>1;a==x" smallSchema "T" {} with
    | error e =>
      rw [hp] at hok
      cases hok
    | ok p => exact ⟨p, rfl⟩
  obtain ⟨htokens, -, -, hpredicate⟩ := reads_spaced ht hb
  have hp' := (hpredicate smallSchema "T" {}).1 p hp
  rw [htext] at htokens hp'
  exact ⟨tokens, p, ht, htokens, hp, hp'⟩

end Predicate
end FilterQuery
