import FilterQuery.Diagnosis
import FilterQuery.Proofs.Grammar.Blame

/-!
# Errors and the tokens after them

Tokens are read from left to right, and what is wrong with one of them is found when it is read. Only
at the end of the tokens can there be an error that more tokens would have helped.

* `Found.message_eq_iff` : an error says that the end was found only if it was;
* `exists_first_error` : an error at a token is that of every list that starts with the tokens up to it;
* `errors_persist` : so no further tokens repair or move it.
-/

set_option autoImplicit false

namespace FilterQuery

/-- The wording of a found end belongs to nothing else. -/
theorem Found.message_eq_iff {found : Found} :
    found.message = "end of input" ↔ found = .nothing := by
  constructor
  · intro h
    have hchars := congrArg String.toList h
    cases found with
    | nothing => rfl
    | token kind content =>
      cases kind <;> simp [message, TokenKind.name, String.toList_append] at hchars
    | text content => simp [message, String.toList_append] at hchars
    | list => simp [message] at hchars
    | values count =>
      -- one ends with an `s`, the other with a `t`
      have hlast := congrArg List.getLast? hchars
      simp [message, String.toList_append] at hlast
  · rintro rfl
    rfl

namespace Grammar
open Query.Reading

variable {tokens : List Token} {e : SyntaxError}

/-- An error other than a found end is found at a token. -/
theorem fails_of_ofTokens (h : Query.ofTokens tokens = .error e) (hf : e.found ≠ .nothing) :
    Fails start tokens e := by
  rcases ofTokens_eq_error.1 h with h | ⟨s, -, h⟩
  · exact h
  · obtain ⟨expected, rfl⟩ := eq_of_finish h
    exact absurd rfl hf

/-- What is wrong with tokens, unless they end too early, is wrong with one of them: every list that
starts with the tokens up to that one has the error, and the tokens before it have none, or end too
early. -/
theorem exists_first_error (h : Query.ofTokens tokens = .error e) (hf : e.found ≠ .nothing) :
    ∃ front t back, tokens = front ++ t :: back ∧
      (∀ more, Query.ofTokens (front ++ t :: more) = .error e) ∧
      ∀ e', Query.ofTokens front = .error e' → e'.found = .nothing := by
  obtain ⟨front, t, back, s, rfl, hfront, hstep⟩ := exists_step_error (fails_of_ofTokens h hf)
  refine ⟨front, t, back, rfl, ?_, ?_⟩
  · intro more
    exact ofTokens_eq_error.2 (.inl (hfront.fails (.head (step_eq_iff.1 hstep))))
  · intro e' he
    by_contra hne
    have hfails := fails_of_ofTokens he hne
    unfold Runs at hfront
    unfold Fails at hfails
    rw [hfront] at hfails
    cases hfails

/-- An error that says anything else than that the end was found is the error of every longer list of
tokens. It is found at one of the tokens, whatever comes after that one, and up to there nothing is wrong
but that the end is found too early. If more tokens make a query, then the tokens are one, or are wrong in
nothing but ending where they do. -/
theorem errors_persist (tokens more : List Token) :
    (∀ e, Query.ofTokens tokens = .error e → e.found.message ≠ "end of input" →
      Query.ofTokens (tokens ++ more) = .error e ∧
      ∃ front t back, tokens = front ++ t :: back ∧
        (∀ others, Query.ofTokens (front ++ t :: others) = .error e) ∧
        ∀ e', Query.ofTokens front = .error e' → e'.found.message = "end of input") ∧
    ∀ q, Query.ofTokens (tokens ++ more) = .ok q → (∃ q', Query.ofTokens tokens = .ok q') ∨
      ∃ e, Query.ofTokens tokens = .error e ∧ e.found.message = "end of input" ∧
        e.span = ⟨Query.endOf tokens, 0⟩ := by
  constructor
  · intro e he hmessage
    have hf : e.found ≠ .nothing := fun h => hmessage (Found.message_eq_iff.2 h)
    have hlonger := (fails_of_ofTokens he hf).append more
    obtain ⟨front, t, back, htokens, hall, hfront⟩ := exists_first_error he hf
    refine ⟨ofTokens_eq_error.2 (.inl hlonger), front, t, back, htokens, hall, ?_⟩
    intro e' he'
    exact Found.message_eq_iff.2 (hfront e' he')
  · intro q hq
    cases h : Query.ofTokens tokens with
    | ok q' => exact .inl ⟨q', rfl⟩
    | error e =>
      rcases ofTokens_eq_error.1 h with hfails | ⟨s, -, hfinish⟩
      · rw [ofTokens_eq_error.2 (.inl (hfails.append more))] at hq
        cases hq
      · obtain ⟨expected, rfl⟩ := eq_of_finish hfinish
        exact .inr ⟨_, rfl, rfl, rfl⟩

/-- The list of `a=bt=(1)` has a value too few, also where another comparison follows. -/
theorem errors_persist_list : ∃ tokens more e,
    (Token.ofText "a=bt=(1),b==2").toOption = some (tokens ++ more) ∧
    Query.ofTokens tokens = .error e ∧ e.found.message = "1 values" ∧ e.span = ⟨5, 3⟩ ∧
    Query.ofTokens (tokens ++ more) = .error e := by
  let tokens : List Token := [⟨.selector, "a", ⟨0, 1⟩⟩, ⟨.operator, "=bt=", ⟨1, 4⟩⟩,
    ⟨.openGroup, "(", ⟨5, 1⟩⟩, ⟨.value, "1", ⟨6, 1⟩⟩, ⟨.closeGroup, ")", ⟨7, 1⟩⟩]
  let more : List Token := [⟨.or, ",", ⟨8, 1⟩⟩, ⟨.selector, "b", ⟨9, 1⟩⟩,
    ⟨.operator, "==", ⟨10, 2⟩⟩, ⟨.value, "2", ⟨12, 1⟩⟩]
  obtain ⟨e, he, hfound, hspan⟩ : ∃ e, Query.ofTokens tokens = .error e ∧
      e.found.message = "1 values" ∧ e.span = ⟨5, 3⟩ := ⟨_, rfl, by decide +kernel, rfl⟩
  have hmessage : e.found.message ≠ "end of input" := by
    rw [hfound]
    decide
  exact ⟨tokens, more, e, by decide +kernel, he, hfound, hspan,
    ((errors_persist tokens more).1 e he hmessage).1⟩

end Grammar
end FilterQuery
