import FilterQuery.Query
import FilterQuery.Token

/-!
# Reading queries

```text
alternatives := conjunction (or conjunction)*
conjunction  := item (and item)*
item         := '(' alternatives ')' | comparison
comparison   := selector operator arguments
arguments    := value | '(' value (separator value)* ')'
```

Tokens are read one by one, with the groups that are open on a stack, at most `maxGroups` of them.

* `SyntaxError` : what was expected, what was found, and where;
* `Query.Reading` : what is read so far, and `Query.Reading.step`, `Query.Reading.finish`, a token
  and the end of the query;
* `Query.ofTokens` : the query that a list of tokens writes.
-/

set_option autoImplicit false

namespace FilterQuery

/-- The largest number of groups that may be open at once. -/
def maxGroups : Nat := 128

/-- What a query should go on with. -/
inductive Expected where
  | item
  /-- A selector without empty segments. -/
  | path
  | operator
  | knownOperator
  /-- Fewer open groups. -/
  | fewerGroups
  | value
  | pair
  | separatorOrEnd
  /-- One value, not a list. -/
  | single (op : Operator)
  /-- A list of two values. -/
  | twoValues (op : Operator)
  | closeGroup
  /-- A connective or nothing. -/
  | connective
deriving DecidableEq, Repr

/-- What a query goes on with instead. -/
inductive Found where
  | token (kind : TokenKind) (text : String)
  /-- A selector or an operator that will not do. -/
  | text (text : String)
  | list
  | values (count : Nat)
  | nothing
deriving DecidableEq, Repr

/-- A place where a query breaks the grammar. -/
structure SyntaxError where
  expected : Expected
  found : Found
  span : Span
deriving DecidableEq, Repr

namespace Query

/-- A token where something else is expected. -/
def unexpected (expected : Expected) (t : Token) : SyntaxError :=
  ⟨expected, .token t.kind t.text, t.span⟩

namespace Reading

/-- A group that is being read: its finished conjunctions and the items of the current one, the last
ones first. -/
structure Level where
  conjunctions : List Query
  items : List Query

/-- A group of which nothing is read yet. -/
def Level.empty : Level := ⟨[], []⟩

/-- The selector and the operator of a comparison. -/
structure Head where
  selector : Token
  operator : Operator
  operatorSpan : Span

/-- What must come next. -/
inductive Mode where
  /-- A comparison or a group. -/
  | item
  | operator (selector : Token)
  | arguments (head : Head)
  /-- A value of the list that opened at byte `first`, after `values`, the last one first. -/
  | value (head : Head) (first : Nat) (values : List Token)
  /-- A separator or the end of the list. -/
  | afterValue (head : Head) (first : Nat) (values : List Token)
  /-- A connective, or the end of a group or of the query. -/
  | afterItem

/-- The group at hand, those around it from the inside out, and what must come. -/
structure State where
  level : Level
  outer : List Level
  mode : Mode

/-- The start of a query. -/
def start : State := ⟨.empty, [], .item⟩

/-- Adds an item to the current conjunction. -/
def Level.add (l : Level) (item : Query) : Level := ⟨l.conjunctions, item :: l.items⟩

/-- Ends the current conjunction. -/
def Level.next (l : Level) : Level := ⟨.join .and l.items.reverse :: l.conjunctions, []⟩

/-- The whole group. -/
def Level.close (l : Level) : Query := .join .or l.next.conjunctions.reverse

/-- The comparison with these arguments. -/
def Head.comparison (h : Head) (values : List Token) : Placed where
  selector := h.selector.text
  operator := h.operator
  arguments := values.map (·.text)
  selectorSpan := h.selector.span
  operatorSpan := h.operatorSpan
  argumentSpans := values.map (·.span)

/-- Goes on after a whole comparison. -/
def State.complete (s : State) (h : Head) (values : List Token) : State :=
  { s with level := s.level.add (.atom (h.comparison values)), mode := .afterItem }

/-- Whether every segment of a selector has a name. -/
def hasSegments (selector : String) : Bool := selector.toList.splitOn '.' |>.all (· ≠ [])

/-- Reads a token where an item must come. -/
def item (s : State) (t : Token) : Except SyntaxError State :=
  match t.kind with
  | .openGroup =>
    if s.outer.length < maxGroups then .ok ⟨.empty, s.level :: s.outer, .item⟩
    else .error ⟨.fewerGroups, .token t.kind t.text, t.span⟩
  | .selector =>
    if hasSegments t.text then .ok { s with mode := .operator t }
    else .error ⟨.path, .text t.text, t.span⟩
  | _ => .error (unexpected .item t)

/-- Reads a token where an operator must come. -/
def operator (s : State) (selector t : Token) : Except SyntaxError State :=
  if t.kind = .operator then
    match Operator.ofSpelling? t.text with
    | some op => .ok { s with mode := .arguments ⟨selector, op, t.span⟩ }
    | none => .error ⟨.knownOperator, .text t.text, t.span⟩
  else .error (unexpected .operator t)

/-- Reads a token where arguments must come. -/
def arguments (s : State) (h : Head) (t : Token) : Except SyntaxError State :=
  let expected := if h.operator.arity = .pair then Expected.pair else .value
  match t.kind with
  | .openGroup => .ok { s with mode := .value h t.span.offset [] }
  | .value =>
    if h.operator.arity = .pair then .error (unexpected expected t) else .ok (s.complete h [t])
  | _ => .error (unexpected expected t)

/-- Goes on after a list of values that ends before byte `stop`. -/
def list (s : State) (h : Head) (first stop : Nat) (values : List Token) :
    Except SyntaxError State :=
  match h.operator.arity with
  | .single => .error ⟨.single h.operator, .list, .upTo first stop⟩
  | .pair =>
    if values.length = 2 then .ok (s.complete h values)
    else .error ⟨.twoValues h.operator, .values values.length, .upTo first stop⟩
  | .list => .ok (s.complete h values)

/-- Reads a token where a value of a list must come. -/
def value (s : State) (h : Head) (first : Nat) (values : List Token) (t : Token) :
    Except SyntaxError State :=
  if t.kind = .value then .ok { s with mode := .afterValue h first (t :: values) }
  else .error (unexpected .value t)

/-- Reads a token after a value of a list. -/
def afterValue (s : State) (h : Head) (first : Nat) (values : List Token) (t : Token) :
    Except SyntaxError State :=
  match t.kind with
  | .separator => .ok { s with mode := .value h first values }
  | .closeGroup => list s h first t.span.stop values.reverse
  | _ => .error (unexpected .separatorOrEnd t)

/-- Reads a token after an item. -/
def afterItem (s : State) (t : Token) : Except SyntaxError State :=
  match t.kind, s.outer with
  | .and, _ => .ok { s with mode := .item }
  | .or, _ => .ok { s with level := s.level.next, mode := .item }
  | .closeGroup, level :: outer => .ok ⟨level.add s.level.close, outer, .afterItem⟩
  | _, [] => .error (unexpected .connective t)
  | _, _ => .error (unexpected .closeGroup t)

/-- Reads a token. -/
def step (s : State) (t : Token) : Except SyntaxError State :=
  match s.mode with
  | .item => item s t
  | .operator selector => operator s selector t
  | .arguments h => arguments s h t
  | .value h first values => value s h first values t
  | .afterValue h first values => afterValue s h first values t
  | .afterItem => afterItem s t

/-- What must come next where a query may not end; nothing where it may. -/
def State.awaits (s : State) : Option Expected :=
  match s.mode with
  | .item => some .item
  | .operator _ => some .operator
  | .arguments h => some (if h.operator.arity = .pair then .pair else .value)
  | .value .. => some .value
  | .afterValue .. => some .separatorOrEnd
  | .afterItem => if s.outer = [] then none else some .closeGroup

/-- The query that ends here, at byte `stop`. -/
def finish (stop : Nat) (s : State) : Except SyntaxError Query :=
  match s.awaits with
  | none => .ok s.level.close
  | some expected => .error ⟨expected, .nothing, ⟨stop, 0⟩⟩

end Reading

/-- The byte after the last token. -/
def endOf (tokens : List Token) : Nat :=
  match tokens.getLast? with
  | some t => t.span.stop
  | none => 0

/-- The query that the tokens write. -/
def ofTokens (tokens : List Token) : Except SyntaxError Query := do
  Reading.finish (endOf tokens) (← tokens.foldlM Reading.step Reading.start)

end Query
end FilterQuery
