import FilterQuery.Proofs.Grammar.Contexts

/-!
# What errors of the grammar blame

Reading stops at the first token that does not fit, or at the end of the query.

* `SyntaxError.Blames` : an error blames a token, a whole list of values or the end of the tokens;
* `exists_step_error` : reading fails at one token, after all tokens before it were read;
* `ListAtHand` : the list that is read opens where the state says; `ListAtHand.step` and
  `ListAtHand.runs`, steps and runs keep this;
* `ofTokens_eq_error` : reading fails at a token, or at the end;
* `blames_of_ofTokens` : whatever the tokens, an error blames one of these.
-/

set_option autoImplicit false

namespace FilterQuery
open Grammar

/-- What an error blames: a token that it also names as found, a list of values from its opening
parenthesis to its closing one, or, if nothing is found, the end of the last token. -/
inductive SyntaxError.Blames (tokens : List Token) : SyntaxError → Prop
  | token {t : Token} {expected : Expected} {found : Found} : t ∈ tokens →
      found = .token t.kind t.text ∨ found = .text t.text → Blames tokens ⟨expected, found, t.span⟩
  | list {opening closing : Token} {front inner back values : List Token} {expected : Expected}
      {found : Found} : tokens = front ++ opening :: (inner ++ closing :: back) →
      opening.kind = .openGroup → IsValues inner values → closing.kind = .closeGroup →
      found = .list ∨ found = .values values.length →
      Blames tokens ⟨expected, found, .upTo opening.span.offset closing.span.stop⟩
  | ending {expected : Expected} : Blames tokens ⟨expected, .nothing, ⟨Query.endOf tokens, 0⟩⟩

namespace Grammar
open Query.Reading

/-! ### Steps that fail -/

section Errors

variable {s : State} {t : Token} {e : SyntaxError}

/-- The error names the token. -/
def Names (t : Token) (e : SyntaxError) : Prop :=
  e.span = t.span ∧ (e.found = .token t.kind t.text ∨ e.found = .text t.text)

theorem names_unexpected (expected : Expected) (t : Token) :
    Names t (Query.unexpected expected t) := ⟨rfl, .inl rfl⟩

/-- A step fails at its token, or at the list that its token closes. -/
theorem error_of_step (hs : step s t = .error e) : Names t e ∨
    ∃ h first values, s.mode = .afterValue h first values ∧ t.kind = .closeGroup ∧
      e.span = .upTo first t.span.stop ∧
      (e.found = .list ∨ e.found = .values values.length) := by
  obtain ⟨level, outer, mode⟩ := s
  cases step_eq_iff.1 hs with
  | tooDeep | noItem | noOperator | noPair | noArguments | noValue | noSeparator | noConnective
  | noClosing => exact .inl (names_unexpected _ t)
  | noPath | unknownOperator => exact .inl ⟨rfl, .inr rfl⟩
  | notSingle hk _ => exact .inr ⟨_, _, _, rfl, hk, rfl, .inl rfl⟩
  | notTwo hk _ _ => exact .inr ⟨_, _, _, rfl, hk, rfl, .inr rfl⟩

/-- Reading fails at a token, after those before it were read. -/
theorem exists_step_error {tokens : List Token} (h : Fails s tokens e) :
    ∃ front t back mid, tokens = front ++ t :: back ∧ Runs s front mid ∧ step mid t = .error e := by
  induction tokens generalizing s with
  | nil => cases h
  | cons t tokens ih =>
    unfold Fails at h
    rw [List.foldlM_cons] at h
    cases hs : step s t with
    | error e' =>
      rw [hs] at h
      cases h
      exact ⟨[], t, tokens, s, rfl, .nil s, hs⟩
    | ok mid =>
      rw [hs] at h
      obtain ⟨front, u, back, s', rfl, hr, he⟩ := ih h
      exact ⟨t :: front, u, back, s', rfl, .cons (step_eq_iff.1 hs) hr, he⟩

end Errors

/-! ### Where a list opens -/

/-- The tokens end with `inner`, after a parenthesis at byte `first`. -/
def EndsIn (tokens : List Token) (first : Nat) (inner : List Token) : Prop :=
  ∃ front opening, tokens = front ++ opening :: inner ∧ opening.kind = .openGroup ∧
    opening.span.offset = first

theorem EndsIn.snoc {tokens inner : List Token} {first : Nat} (h : EndsIn tokens first inner)
    (t : Token) : EndsIn (tokens ++ [t]) first (inner ++ [t]) := by
  obtain ⟨front, opening, rfl, ho, hf⟩ := h
  exact ⟨front, opening, by simp, ho, hf⟩

/-- If a list is being read, the tokens end with its parenthesis and the values so far. -/
def ListAtHand (tokens : List Token) : Mode → Prop
  | .value _ first values => ∃ inner, EndsIn tokens first inner ∧ Separated inner values
  | .afterValue _ first values => ∃ inner v read, values = v :: read ∧
      EndsIn tokens first (inner ++ [v]) ∧ Separated inner read ∧ v.kind = .value
  | .item | .operator _ | .arguments _ | .afterItem => True

theorem ListAtHand.step {s s' : State} {tokens : List Token} {t : Token}
    (h : ListAtHand tokens s.mode) (hs : Query.Reading.step s t = .ok s') :
    ListAtHand (tokens ++ [t]) s'.mode := by
  obtain ⟨level, outer, mode⟩ := s
  cases step_eq_iff.1 hs with
  | list hk => exact ⟨[], ⟨tokens, t, rfl, hk, rfl⟩, .nil⟩
  | value hk =>
    obtain ⟨inner, hends, hvalues⟩ := h
    exact ⟨inner, t, _, rfl, hends.snoc t, hvalues, hk⟩
  | separator hk =>
    obtain ⟨inner, v, read, rfl, hends, hread, hv⟩ := h
    have hends := hends.snoc t
    rw [List.append_assoc] at hends
    exact ⟨_, hends, hread.snoc hv hk⟩
  | opening | selector | operator | bare | ending | and | or | closing => trivial

theorem ListAtHand.runs {s s' : State} {tokens rest : List Token} (h : ListAtHand tokens s.mode)
    (hr : Runs s rest s') : ListAtHand (tokens ++ rest) s'.mode :=
  hr.preserves (P := fun s tokens => ListAtHand tokens s.mode) ListAtHand.step h

/-! ### Errors of the grammar -/

theorem blames_of_step {s : State} {t : Token} {e : SyntaxError} {front : List Token}
    (h : ListAtHand front s.mode) (hs : step s t = .error e) (back : List Token) :
    e.Blames (front ++ t :: back) := by
  obtain ⟨expected, found, span⟩ := e
  rcases error_of_step hs with ⟨rfl, hfound⟩ | ⟨head, first, values, hmode, hk, rfl, hfound⟩
  · exact .token (by simp) hfound
  · rw [hmode] at h
    obtain ⟨inner, v, read, rfl, ⟨before, opening, rfl, ho, rfl⟩, hread, hv⟩ := h
    rw [← List.length_reverse] at hfound
    have htokens : before ++ opening :: (inner ++ [v]) ++ t :: back =
        before ++ opening :: (inner ++ [v] ++ t :: back) := by simp
    exact .list htokens ho (hread.values hv) hk hfound

/-- Only at the end of the tokens is nothing found. -/
theorem eq_of_finish {s : State} {stop : Nat} {e : SyntaxError} (h : finish stop s = .error e) :
    ∃ expected, e = ⟨expected, .nothing, ⟨stop, 0⟩⟩ := by
  unfold finish at h
  split at h
  · cases h
  · next expected _ =>
    cases h
    exact ⟨expected, rfl⟩

/-- Reading fails at a token, or at the end of the tokens. -/
theorem ofTokens_eq_error {tokens : List Token} {e : SyntaxError} :
    Query.ofTokens tokens = .error e ↔ Fails start tokens e ∨
      ∃ s, Runs start tokens s ∧ finish (Query.endOf tokens) s = .error e := by
  unfold Query.ofTokens Fails Runs
  exact bind_eq_error

/-- Tokens that are no query are refused at one of them, at a list of values or at their end. -/
theorem blames_of_ofTokens {tokens : List Token} {e : SyntaxError}
    (h : Query.ofTokens tokens = .error e) : e.Blames tokens := by
  rcases ofTokens_eq_error.1 h with hfails | ⟨s, -, hfinish⟩
  · obtain ⟨front, t, back, mid, rfl, hfront, hs⟩ := exists_step_error hfails
    have hlist : ListAtHand front mid.mode := (show ListAtHand [] start.mode from trivial).runs hfront
    exact blames_of_step hlist hs back
  · obtain ⟨expected, rfl⟩ := eq_of_finish hfinish
    exact .ending

end Grammar
end FilterQuery
