import FilterQuery.Predicate
import FilterQuery.Query
import FilterQuery.Resolution

/-!
# From queries to predicates

Each comparison is resolved against the schema, its operator is checked against the type of the
attribute, and its arguments are read as values of that type, in this order.

* `Options` : what changes how comparisons are compiled;
* `CompileError` : why a comparison does not compile, with the places to blame;
* `Placed.compile`, `Query.compile` : the condition of a comparison, the predicate of a query, or
  the error of the leftmost comparison that has one.
-/

set_option autoImplicit false

namespace FilterQuery

/-- What changes how comparisons are compiled. -/
structure Options where
  /-- Whether a star in an argument of `==` or `!=` on a string makes it a pattern. -/
  wildcardEquality : Bool := false
  /-- Whether every string attribute is case-insensitive. -/
  caseInsensitiveStrings : Bool := false
deriving DecidableEq, Repr

/-- Why a comparison does not compile. -/
inductive CompileError where
  | unknownType (name : String)
  | unknownAttribute (path segment type : String) (fault : SegmentFault) (available : List String)
      (span : Span)
  | unsupportedOperator (operator : Operator) (type : ValueType) (path : String)
      (operatorSpan selectorSpan : Span)
  | coercion (literal : String) (type : ValueType) (error : CoercionError) (span : Span)
  | patternTooLarge (literal : String) (span : Span)
  /-- A pattern operator without arguments. -/
  | patternMissing
deriving DecidableEq, Repr

/-- The place of the segment after `index` others in a selector; of the whole selector if there are
not so many. -/
def segmentSpan (selector : Span) : (offset : Nat) → (index : Nat) → List (List Char) → Span
  | _, _, [] => selector
  | offset, 0, segment :: _ => ⟨offset, byteLength segment⟩
  | offset, index + 1, segment :: rest =>
    segmentSpan selector (offset + byteLength segment + 1) index rest

/-- The error of a comparison whose selector names no scalar. -/
def ResolveError.compileError (p : Placed) : ResolveError → CompileError
  | unknownType name => .unknownType name
  | unknownAttribute path segment index type fault available =>
    .unknownAttribute path segment type fault available
      (segmentSpan p.selectorSpan p.selectorSpan.offset index (p.selector.toList.splitOn '.'))

namespace Placed

/-- The operator that is meant: with wildcards, equality with a star is a pattern. -/
def effectiveOperator (p : Placed) (options : Options) (type : ValueType) : Operator :=
  let wildcard := options.wildcardEquality && type = .string &&
    p.arguments.any fun a => star ∈ a.toList
  match p.operator with
  | .equal => if wildcard then .like else .equal
  | .notEqual => if wildcard then .notLike else .notEqual
  | op => op

/-- The value of an argument. -/
def value (type : ValueType) (foldCase : Bool) (argument : String) (span : Span) :
    Except CompileError Value :=
  match coerce argument type with
  | .ok (.string s) => .ok (.string (if foldCase then Condition.lowercased s else s))
  | .ok v => .ok v
  | .error e => .error (.coercion argument type e span)

/-- The condition of a comparison on an attribute. -/
def condition [PatternSize] (p : Placed) (operator : Operator) (type : ValueType)
    (foldCase : Bool) : Except CompileError Condition :=
  let bare : Condition := ⟨.parse p.selector, operator, [], type, foldCase, none⟩
  if operator.isNullCheck then .ok bare
  else if operator.isPattern then
    match p.arguments with
    | [] => .error .patternMissing
    | source :: _ =>
      match LikePattern.ofSource? source foldCase with
      | some pattern => .ok { bare with values := [.string source], pattern := some pattern }
      | none => .error (.patternTooLarge source (p.argumentSpans.head?.getD p.operatorSpan))
  else do
    let values ← (p.arguments.zip p.argumentSpans).mapM fun (argument, span) =>
      value type foldCase argument span
    return { bare with values := values }

/-- The condition of a comparison on entities of the type `root`. -/
def compile [PatternSize] (p : Placed) (schema : Schema) (root : String) (options : Options) :
    Except CompileError Condition :=
  match resolve schema root p.selector with
  | .error e => .error (e.compileError p)
  | .ok found =>
    let operator := p.effectiveOperator options found.type
    if operator.supports found.type then
      p.condition operator found.type
        (found.type = .string && operator.foldsCase &&
          (found.caseInsensitive || options.caseInsensitiveStrings))
    else
      .error (.unsupportedOperator operator found.type p.selector p.operatorSpan p.selectorSpan)

end Placed

/-- The predicate of a query on entities of the type `root`. -/
def Query.compile [PatternSize] (q : Query) (schema : Schema) (root : String) (options : Options) :
    Except CompileError Predicate :=
  q.traverse (·.compile schema root options)

end FilterQuery
