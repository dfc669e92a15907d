import FilterQuery.Proofs.Grammar.Mapped
import FilterQuery.Proofs.Grammar.Reached
import FilterQuery.Proofs.Grammar.Roles
import FilterQuery.Proofs.Lexeme.Seam

/-!
# What a lexeme is read for, and what must come

Lexemes get their meaning from those before them, before anything is known of the grammar. While
tokens are read as a query, the context of the next lexeme is the one that goes with what must come.

* `Context.after` : the context after lexemes, and `classify_append`, the tokens of lexemes that are
  put together;
* `Mode.context` : the context that goes with what must come;
* `Follows` : what a token may be where it stands, and what must come after it;
* `context_of_runs` : reading keeps the context and what must come together;
* `IsOperandPlace` : where a value stands in a query, and so any other value may.
-/

set_option autoImplicit false

namespace FilterQuery

/-- The context after some lexemes. -/
def Context.after (c : Context) (placed : List (Nat × Lexeme)) : Context :=
  placed.foldl (fun context x => (context.read x.2).2) c

/-- The context of the next lexeme, by what must come. -/
def Query.Reading.Mode.context : Query.Reading.Mode → Context
  | .arguments _ => .arguments
  | .value .. | .afterValue .. => .values
  | .item | .operator _ | .afterItem => .expression

namespace Grammar
open Query.Reading
open Lexeme (Stops shiftBy)
open Token (classify)

/-! ### Tokens of lexemes that are put together -/

theorem classify_cons (c : Context) (x : Nat × Lexeme) (placed : List (Nat × Lexeme)) :
    classify c (x :: placed) =
      ⟨(c.read x.2).1, String.ofList x.2.content, ⟨x.1, byteLength x.2.source⟩⟩ ::
        classify (c.read x.2).2 placed := rfl

theorem classify_append (c : Context) (before after : List (Nat × Lexeme)) :
    classify c (before ++ after) = classify c before ++ classify (c.after before) after := by
  induction before generalizing c with
  | nil => rfl
  | cons x before ih =>
    rw [List.cons_append, classify_cons, ih]
    rfl

/-- Lexemes at other places have the same tokens there. -/
theorem classify_map (f : Nat → Nat) (c : Context) (placed : List (Nat × Lexeme)) :
    classify c (placed.map (Prod.map f id)) =
      (classify c placed).map (Token.place fun s => ⟨f s.offset, s.length⟩) := by
  induction placed generalizing c with
  | nil => rfl
  | cons x placed ih =>
    rw [List.map_cons, classify_cons, Prod.map_snd, id, ih]
    rfl

/-- Lexemes further on have the same tokens further on. -/
theorem classify_shiftBy (n : Nat) (c : Context) (placed : List (Nat × Lexeme)) :
    classify c (shiftBy n placed) = (classify c placed).map (Token.place (Span.shift n)) :=
  classify_map (· + n) c placed

theorem map_span_classify (c : Context) (placed : List (Nat × Lexeme)) :
    (classify c placed).map (·.span) = placed.map fun x => ⟨x.1, byteLength x.2.source⟩ := by
  induction placed generalizing c with
  | nil => rfl
  | cons x placed ih => rw [classify_cons, List.map_cons, List.map_cons, ih]

theorem exists_lexeme_of_mem_classify {c : Context} {placed : List (Nat × Lexeme)} {t : Token}
    (h : t ∈ classify c placed) : ∃ before start l after, placed = before ++ (start, l) :: after ∧
      t = ⟨((c.after before).read l).1, String.ofList l.content,
        ⟨start, byteLength l.source⟩⟩ := by
  induction placed generalizing c with
  | nil => cases h
  | cons x placed ih =>
    rw [classify_cons] at h
    rcases List.mem_cons.1 h with rfl | h
    · exact ⟨[], x.1, x.2, placed, rfl, rfl⟩
    · obtain ⟨before, start, l, after, rfl, rfl⟩ := ih h
      exact ⟨x :: before, start, l, after, rfl, rfl⟩

/-! ### What must come -/

/-- A token of the kind may stand where the first mode says what must come, and the second one says
what must come after it. -/
inductive Follows : Mode → TokenKind → Mode → Prop
  | opening : Follows .item .openGroup .item
  | selector {t : Token} : Follows .item .selector (.operator t)
  | operator {t : Token} {h : Head} : Follows (.operator t) .operator (.arguments h)
  | bare {h : Head} : Follows (.arguments h) .value .afterItem
  | list {h : Head} {n : Nat} : Follows (.arguments h) .openGroup (.value h n [])
  | value {h : Head} {n : Nat} {read : List Token} {v : Token} :
      Follows (.value h n read) .value (.afterValue h n (v :: read))
  | separator {h : Head} {n : Nat} {read : List Token} :
      Follows (.afterValue h n read) .separator (.value h n read)
  | ending {h : Head} {n : Nat} {read : List Token} :
      Follows (.afterValue h n read) .closeGroup .afterItem
  | and : Follows .afterItem .and .item
  | or : Follows .afterItem .or .item
  | closing : Follows .afterItem .closeGroup .afterItem

/-- What a step can do. -/
theorem follows_of_step {s s' : State} {t : Token} (h : step s t = .ok s') :
    Follows s.mode t.kind s'.mode := by
  obtain ⟨level, outer, mode⟩ := s
  cases step_eq_iff.1 h with
  | opening hk _ => exact hk ▸ .opening
  | selector hk _ => exact hk ▸ .selector
  | operator hk _ => exact hk ▸ .operator
  | bare hk _ => exact hk ▸ .bare
  | list hk => exact hk ▸ .list
  | value hk => exact hk ▸ .value
  | separator hk => exact hk ▸ .separator
  | ending hk _ _ => exact hk ▸ .ending
  | and hk => exact hk ▸ .and
  | or hk => exact hk ▸ .or
  | closing hk _ => exact hk ▸ .closing

theorem Follows.context {mode mode' : Mode} {kind : TokenKind} {c : Context} {l : Lexeme}
    (h : Follows mode kind mode') (hread : mode.context.read l = (kind, c)) :
    c = mode'.context := by
  have hx := explains_of_read hread
  cases h with
  | opening => exact hx.2.2 rfl
  | selector | operator =>
    obtain ⟨_, -, hc⟩ := hx
    exact hc
  | bare =>
    obtain ⟨_, -, hc, -⟩ := hx
    exact hc rfl
  | list => exact hx.2.1 rfl
  | value =>
    obtain ⟨_, -, -, hc⟩ := hx
    exact hc rfl
  | separator | ending | and | or | closing => exact hx.2

/-- While tokens are read, lexemes are read in the context that goes with what must come. -/
theorem context_of_runs {s s' : State} {placed : List (Nat × Lexeme)}
    (h : Runs s (classify s.mode.context placed) s') :
    Context.after s.mode.context placed = s'.mode.context := by
  induction placed generalizing s with
  | nil =>
    cases h
    rfl
  | cons x placed ih =>
    obtain ⟨mid, hstep, hr⟩ := runs_cons.1 h
    have hc := (follows_of_step hstep).context rfl
    rw [hc] at hr
    rw [← ih hr, ← hc]
    rfl

/-! ### Where a value stands -/

/-- The lexemes around a value in a query: it is read as a value, as any other would be; the lexeme
before does not go on in it, and after it there is a mark. -/
structure IsOperandPlace (before after : List (Nat × Lexeme)) : Prop where
  context : Context.after .expression before ≠ .expression
  before : ∀ x ∈ before.getLast?, ∀ rest : List Char, rest.head? ≠ some '=' → x.2.Stops rest
  after : ∀ x ∈ after.head?, x.2 ∈ [.closeParen, .semicolon, .comma]

theorem runs_append {s s' : State} {tokens rest : List Token} :
    Runs s (tokens ++ rest) s' ↔ ∃ mid, Runs s tokens mid ∧ Runs mid rest s' := by
  unfold Runs
  rw [List.foldlM_append]
  exact bind_eq_ok

section Value

variable {mode mode' mode'' : Mode} {kind : TokenKind} {c c' : Context} {l : Lexeme}

theorem Follows.context_ne_expression (h : Follows mode .value mode') :
    mode.context ≠ .expression := by
  cases h <;> rintro ⟨⟩

theorem Follows.stops_of_value (h : Follows mode kind mode') (hv : Follows mode' .value mode'')
    (hread : c.read l = (kind, c')) {rest : List Char} (hrest : rest.head? ≠ some '=') :
    l.Stops rest := by
  have hx := explains_of_read hread
  cases h with
  | operator =>
    obtain ⟨symbol, rfl, -⟩ := hx
    exact hrest
  | list | separator =>
    obtain ⟨rfl, -⟩ := hx
    trivial
  | opening | selector | bare | value | ending | and | or | closing => cases hv

theorem Follows.mark_of_value (hv : Follows mode .value mode') (h : Follows mode' kind mode'')
    (hread : c.read l = (kind, c')) : l ∈ [.closeParen, .semicolon, .comma] := by
  have hx := explains_of_read hread
  cases h with
  | separator | ending | and | or | closing =>
    rw [hx.1]
    decide
  | opening | selector | operator | bare | list | value => cases hv

end Value

theorem isOperandPlace_of_ofTokens {q : Query} {before after : List (Nat × Lexeme)} {start : Nat}
    {l : Lexeme} (h : Query.ofTokens (classify .expression (before ++ (start, l) :: after)) = .ok q)
    (hk : ((Context.after .expression before).read l).1 = .value) :
    IsOperandPlace before after := by
  obtain ⟨s, hr, -⟩ := ofTokens_eq_ok.1 h
  rw [classify_append, classify_cons] at hr
  obtain ⟨mid, hbefore, hr⟩ := runs_append.1 hr
  obtain ⟨next, hstep, hafter⟩ := runs_cons.1 hr
  have hcontext : Context.after .expression before = mid.mode.context :=
    context_of_runs (s := Query.Reading.start) hbefore
  have hvalue := follows_of_step hstep
  rw [hk] at hvalue
  refine ⟨?_, ?_, ?_⟩
  · rw [hcontext]
    exact hvalue.context_ne_expression
  · intro x hx rest hrest
    obtain ⟨init, rfl⟩ := List.getLast?_eq_some_iff.1 hx
    rw [classify_append] at hbefore
    obtain ⟨s₀, -, hlast⟩ := runs_append.1 hbefore
    obtain ⟨s₁, hx, hnil⟩ := runs_cons.1 hlast
    cases hnil
    exact (follows_of_step hx).stops_of_value hvalue rfl hrest
  · intro x hx
    obtain ⟨tail, rfl⟩ := List.head?_eq_some_iff.1 hx
    obtain ⟨s₁, hx, -⟩ := runs_cons.1 hafter
    exact hvalue.mark_of_value (follows_of_step hx) rfl

/-- Where one value is read, so is any other, and it leaves the same to expect. -/
theorem read_operand {c : Context} (hc : c ≠ .expression) {l : Lexeme}
    (hk : (c.read l).1 = .value) (o : Operand) : c.read o.lexeme = c.read l := by
  have hx : Explains c l (c.read l).2 .value := explains_of_read (Prod.ext hk rfl)
  obtain ⟨o', rfl, -, -⟩ := hx
  cases c with
  | expression => exact absurd rfl hc
  | arguments => rw [o.read.1, o'.read.1]
  | values => rw [o.read.2, o'.read.2]

end Grammar
end FilterQuery
