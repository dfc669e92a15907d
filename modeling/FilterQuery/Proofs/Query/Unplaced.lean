import FilterQuery.Proofs.Grammar.Mapped
import FilterQuery.Proofs.Grammar.Reached
import FilterQuery.Proofs.Predicate.Places

/-!
# Reading tokens without their places

Places are carried along while tokens are read, and nothing is decided by them.

* `Token.unplaced`, `Placed.unplaced`, `SyntaxError.unplaced` : the same without places;
* `State.unplaced` : the same of what is read so far;
* `Steps.unplaced`, `foldlM_step_unplaced` : steps and runs are the same without places;
* `ofTokens_unplaced` : tokens that differ in places alone write the same query, or have the same error.
-/

set_option autoImplicit false

namespace FilterQuery

/-- The token with a place that says nothing. -/
def Token.unplaced : Token → Token := Token.place fun _ => .nowhere

/-- The comparison with places that say nothing. -/
def Placed.unplaced : Placed → Placed := Placed.place fun _ => .nowhere

/-- The error with a place that says nothing. -/
def SyntaxError.unplaced (e : SyntaxError) : SyntaxError := { e with span := .nowhere }

/-- The query with places that say nothing. -/
def Query.unplaced : Query → Query := Formula.map Placed.unplaced

namespace Query
namespace Reading

/-! ### What is read so far -/

/-- The same without places. -/
def Level.unplaced (l : Level) : Level :=
  ⟨l.conjunctions.map Query.unplaced, l.items.map Query.unplaced⟩

/-- The same without places. -/
def Head.unplaced (h : Head) : Head := ⟨h.selector.unplaced, h.operator, .nowhere⟩

/-- The same without places; a list without places opens at byte 0. -/
def Mode.unplaced : Mode → Mode
  | .item => .item
  | .operator selector => .operator selector.unplaced
  | .arguments h => .arguments h.unplaced
  | .value h _ values => .value h.unplaced 0 (values.map Token.unplaced)
  | .afterValue h _ values => .afterValue h.unplaced 0 (values.map Token.unplaced)
  | .afterItem => .afterItem

/-- The same without places. -/
def State.unplaced (s : State) : State :=
  ⟨s.level.unplaced, s.outer.map Level.unplaced, s.mode.unplaced⟩

theorem Level.unplaced_add (l : Level) (q : Query) :
    (l.add q).unplaced = l.unplaced.add q.unplaced := rfl

theorem Level.unplaced_next (l : Level) : l.next.unplaced = l.unplaced.next := by
  simp only [next, unplaced, List.map_cons, List.map_nil, Query.unplaced, Formula.map_join,
    List.map_reverse]

theorem Level.unplaced_close (l : Level) : l.close.unplaced = l.unplaced.close := by
  rw [close, close, ← unplaced_next, Query.unplaced, Formula.map_join, List.map_reverse]
  rfl

theorem Head.unplaced_comparison (h : Head) (values : List Token) :
    (h.comparison values).unplaced = h.unplaced.comparison (values.map Token.unplaced) := by
  simp [comparison, unplaced, Placed.unplaced, Placed.place, Token.unplaced, Token.place,
    Function.comp_def]

theorem Level.unplaced_add_comparison (l : Level) (h : Head) (values : List Token) :
    (l.add (.atom (h.comparison values))).unplaced =
      l.unplaced.add (.atom (h.unplaced.comparison (values.map Token.unplaced))) := by
  rw [unplaced_add, ← Head.unplaced_comparison]
  rfl

/-! ### Steps -/

/-- The same without places, whether reading goes on or fails. -/
def unplacedResult (result : Except SyntaxError State) : Except SyntaxError State :=
  (result.map State.unplaced).mapError SyntaxError.unplaced

theorem unplacedResult_ok (s : State) : unplacedResult (.ok s) = .ok s.unplaced := rfl

/-- What comes of a token comes of it without its place, but for the places. -/
theorem Steps.unplaced {level : Level} {outer : List Level} {t : Token} {mode : Mode}
    {result : Except SyntaxError State} (h : Steps level outer t mode result) :
    Steps level.unplaced (outer.map Level.unplaced) t.unplaced mode.unplaced
      (unplacedResult result) := by
  have houter : (outer.map Level.unplaced).length = outer.length := List.length_map _
  cases h with
  | opening hk hroom => exact .opening hk (houter ▸ hroom)
  | tooDeep hk hroom => exact .tooDeep hk (houter ▸ hroom)
  | selector hk hs => exact .selector hk hs
  | noPath hk hs => exact .noPath hk hs
  | noItem hopening hselector => exact .noItem hopening hselector
  | operator hk hs => exact .operator hk hs
  | unknownOperator hk hs => exact .unknownOperator hk hs
  | noOperator hk => exact .noOperator hk
  | bare hk hp =>
    rw [unplacedResult_ok, State.unplaced, Level.unplaced_add_comparison]
    exact .bare hk hp
  | list hk => exact .list hk
  | noPair hopening hp => exact .noPair hopening hp
  | noArguments hopening hvalue hp => exact .noArguments hopening hvalue hp
  | value hk => exact .value hk
  | noValue hk => exact .noValue hk
  | separator hk => exact .separator hk
  | @ending h first values hk hsingle hpair =>
    rw [← List.length_map Token.unplaced] at hpair
    rw [unplacedResult_ok, State.unplaced, Level.unplaced_add_comparison, List.map_reverse]
    exact .ending hk hsingle hpair
  | notSingle hk ha => exact .notSingle hk ha
  | @notTwo h first values hk ha hl =>
    have hlength : (values.map Token.unplaced).length = values.length := List.length_map _
    rw [← hlength] at hl ⊢
    exact .notTwo hk ha hl
  | noSeparator hseparator hclosing => exact .noSeparator hseparator hclosing
  | and hk => exact .and hk
  | or hk =>
    rw [unplacedResult_ok, State.unplaced, Level.unplaced_next]
    exact .or hk
  | @closing around rest hk houter =>
    subst houter
    rw [unplacedResult_ok, State.unplaced, Level.unplaced_add, Level.unplaced_close]
    exact .closing hk rfl
  | noConnective hand hor houter =>
    subst houter
    exact .noConnective hand hor rfl
  | noClosing hand hor hclosing houter =>
    have hne : outer.map Level.unplaced ≠ [] := by simpa using houter
    exact .noClosing hand hor hclosing hne

theorem step_unplaced (s : State) (t : Token) :
    step s.unplaced t.unplaced = unplacedResult (step s t) := (steps_step s t).unplaced.step_eq

/-- Reading takes the same way without places. -/
theorem foldlM_step_unplaced (s : State) (tokens : List Token) :
    (tokens.map Token.unplaced).foldlM step s.unplaced = unplacedResult (tokens.foldlM step s) := by
  induction tokens generalizing s with
  | nil => rfl
  | cons t tokens ih =>
    rw [List.map_cons, List.foldlM_cons, List.foldlM_cons, step_unplaced]
    cases step s t with
    | error e => rfl
    | ok s' => exact ih s'

theorem finish_unplaced (s : State) (stop : Nat) : finish 0 s.unplaced =
    ((finish stop s).map Query.unplaced).mapError SyntaxError.unplaced := by
  have hawaits : s.unplaced.awaits = s.awaits := by
    obtain ⟨level, outer, mode⟩ := s
    cases mode with
    | afterItem => cases outer <;> rfl
    | _ => rfl
  unfold finish
  rw [hawaits]
  split
  · exact congrArg Except.ok s.level.unplaced_close.symm
  · rfl

end Reading

/-! ### Queries -/

/-- Tokens without places write the query without places, or have the error without its place. -/
theorem ofTokens_unplaced (tokens : List Token) : ofTokens (tokens.map Token.unplaced) =
    ((ofTokens tokens).map Query.unplaced).mapError SyntaxError.unplaced := by
  have hend : endOf (tokens.map Token.unplaced) = 0 := by
    unfold endOf
    rw [List.getLast?_map]
    cases tokens.getLast? <;> rfl
  have hrun := Reading.foldlM_step_unplaced Reading.start tokens
  unfold ofTokens
  rw [hend]
  change (tokens.map Token.unplaced).foldlM Reading.step Reading.start = _ at hrun
  rw [hrun]
  cases tokens.foldlM Reading.step Reading.start with
  | error e => rfl
  | ok s => exact Reading.finish_unplaced s _

end Query
end FilterQuery
