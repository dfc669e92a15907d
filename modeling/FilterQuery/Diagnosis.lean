import FilterQuery.Compilation
import FilterQuery.Query.Reader

/-!
# Failures of queries and their wording

* `QueryError` : what is wrong with a query, and the text that its places refer to;
* `QueryError.message`, `code`, `help?`, `labels`, `position?` : the parts of a report;
* `Query.ofText`, `Predicate.ofText` : the query and the predicate of a text, or its first error.
-/

set_option autoImplicit false

namespace FilterQuery

/-! ### Grammar -/

/-- The name of a kind of token. -/
def TokenKind.name : TokenKind → String
  | selector => "selector"
  | operator => "operator"
  | value => "value"
  | openGroup => "'('"
  | closeGroup => "')'"
  | and => "';'"
  | or | separator => "','"

/-- The wording of what was expected. -/
def Expected.message : Expected → String
  | item => "selector or '('"
  | path => "attribute path (name or dotted.name)"
  | operator => "comparison operator"
  | knownOperator => "known comparison operator"
  | fewerGroups => "at most " ++ toString maxGroups ++ " nested groups"
  | value => "value"
  | pair => "value list '(low,high)'"
  | separatorOrEnd => "',' or ')'"
  | single op => "single value for '" ++ op.symbol ++ "'"
  | twoValues op => "exactly two values for '" ++ op.symbol ++ "'"
  | closeGroup => "')'"
  | connective => "';', ',' or end of input"

/-- The wording of what was found. -/
def Found.message : Found → String
  | .token kind content =>
    match kind with
    | .selector | .operator | .value => kind.name ++ " '" ++ content ++ "'"
    | kind => kind.name
  | .text content => "'" ++ content ++ "'"
  | .list => "value list"
  | .values count => toString count ++ " values"
  | .nothing => "end of input"

/-! ### Lexemes -/

/-- What to do about a character that starts no lexeme. -/
def LexError.help? (e : LexError) : Option String :=
  match e.unexpected with
  | '"' | '\'' => some ("Add a closing " ++ e.unexpected.toString ++ " quote")
  | '=' => some "Comparison operators are ==, !=, <, <=, >, >= or =name= (e.g. =ge=, =in=)"
  | '!' => some "Did you mean != ?"
  | '~' => some "'~' is reserved; quote the value to use it literally"
  | _ => none

/-- The place of a character that starts no lexeme. -/
def LexError.span (e : LexError) : Span := ⟨e.position, e.unexpected.utf8Size⟩

/-! ### Compilation -/

/-- The wording of what is wrong with a segment. -/
def SegmentFault.message (type : String) : SegmentFault → String
  | missing => "not an attribute of " ++ type
  | notRelation => "scalar attribute of " ++ type ++ " has no attributes"
  | notScalar => "relation on " ++ type ++ ", select one of its attributes"

namespace CompileError

/-- The wording of an error. -/
def message : CompileError → String
  | unknownType name => "Unknown entity type: " ++ name
  | unknownAttribute path segment _ _ _ _ =>
    "Unknown attribute '" ++ segment ++ "' in selector '" ++ path ++ "'"
  | unsupportedOperator op type path _ _ =>
    "Operator '" ++ op.symbol ++ "' is not supported for " ++ type.name ++ " attribute '" ++ path ++
      "'"
  | coercion literal type error _ =>
    "Cannot convert '" ++ literal ++ "' to " ++ type.name ++ ": " ++ error.message
  | patternTooLarge literal _ =>
    "Cannot convert '" ++ literal ++ "' to string: unusable LIKE pattern: " ++
      FilterQuery.patternTooLarge
  | patternMissing => "Internal error: pattern comparison without a value"

/-- The code of an error. -/
def code : CompileError → String
  | unknownType .. => "rsql::unknown_type"
  | unknownAttribute .. => "rsql::unknown_attribute"
  | unsupportedOperator .. => "rsql::unsupported_operator"
  | coercion .. | patternTooLarge .. => "rsql::value_coercion"
  | patternMissing => "rsql::internal"

/-- What to do about an error. -/
def help? : CompileError → Option String
  | unknownType _ => some "The root type must be declared in the schema"
  | unknownAttribute _ _ type _ available _ =>
    if available.isEmpty then none
    else some ("Attributes of " ++ type ++ ": " ++ ", ".intercalate available)
  | unsupportedOperator _ type _ _ _ =>
    let supported := Operator.all.filter (·.supports type)
    some ("Operators for " ++ type.name ++ " attributes: " ++
      " ".intercalate (supported.map Operator.symbol))
  | _ => none

/-- The byte of the query where an error was noticed. -/
def position? : CompileError → Option Nat
  | unknownAttribute _ _ _ _ _ span | coercion _ _ _ span | patternTooLarge _ span =>
    some span.offset
  | unsupportedOperator _ _ _ operatorSpan _ => some operatorSpan.offset
  | unknownType _ | patternMissing => none

/-- The places to blame, with what to say there. -/
def labels : CompileError → List (Span × String)
  | unknownAttribute _ _ type fault _ span => [(span, fault.message type)]
  | unsupportedOperator _ type _ operatorSpan selectorSpan =>
    [(operatorSpan, "unsupported operator"), (selectorSpan, type.name ++ " attribute")]
  | coercion _ type _ span => [(span, "expected " ++ type.name)]
  | patternTooLarge _ span => [(span, "expected string")]
  | unknownType _ | patternMissing => []

end CompileError

/-! ### Any failure -/

/-- What is wrong with a query. -/
inductive QueryFault where
  | lexical (e : LexError)
  | grammatical (e : SyntaxError)
  | semantic (e : CompileError)
deriving DecidableEq, Repr

/-- What is wrong with a query, and the text that the places refer to: none of it if the query was
not read from a text. -/
structure QueryError where
  fault : QueryFault
  source : String
deriving DecidableEq, Repr

namespace QueryError

/-- The wording of a failure. -/
def message (e : QueryError) : String :=
  match e.fault with
  | .lexical e =>
    "Unexpected character '" ++ e.unexpected.toString ++ "' at position " ++ toString e.position
  | .grammatical e =>
    "Syntax error at position " ++ toString e.span.offset ++ ": expected " ++ e.expected.message ++
      ", found " ++ e.found.message
  | .semantic e => e.message

/-- The code of a failure. -/
def code (e : QueryError) : String :=
  match e.fault with
  | .lexical _ => "rsql::lex"
  | .grammatical _ => "rsql::syntax"
  | .semantic e => e.code

/-- What to do about a failure. -/
def help? (e : QueryError) : Option String :=
  match e.fault with
  | .lexical e => e.help?
  | .grammatical _ => none
  | .semantic e => e.help?

/-- The places to blame, with what to say there. -/
def labels (e : QueryError) : List (Span × String) :=
  match e.fault with
  | .lexical e => [(e.span, "not valid here")]
  | .grammatical e => [(e.span, "expected " ++ e.expected.message)]
  | .semantic e => e.labels

/-- The byte of the query where the failure was noticed. -/
def position? (e : QueryError) : Option Nat :=
  match e.fault with
  | .lexical e => some e.position
  | .grammatical e => some e.span.offset
  | .semantic e => e.position?

/-- The text that the places refer to; an undeclared root type has no place. -/
def source? (e : QueryError) : Option String :=
  match e.fault with
  | .semantic (.unknownType _) => none
  | _ => some e.source

end QueryError

/-- The query of a text. -/
def Query.ofText (text : String) : Except QueryError Query :=
  match Token.ofText text with
  | .error e => .error ⟨.lexical e, text⟩
  | .ok tokens => (Query.ofTokens tokens).mapError (⟨.grammatical ·, text⟩)

/-- The predicate of a text on entities of the type `root`. -/
def Predicate.ofText [PatternSize] (text : String) (schema : Schema) (root : String)
    (options : Options) : Except QueryError Predicate := do
  (Query.compile (← Query.ofText text) schema root options).mapError (⟨.semantic ·, text⟩)

end FilterQuery
