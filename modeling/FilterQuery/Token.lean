import FilterQuery.Lexeme

/-!
# Tokens: what a lexeme means where it stands

A word is a selector or a value, a parenthesis opens a group or a list of values, a comma joins
alternatives or separates values; which of them depends on the lexemes before it.

* `Token` : a lexeme with its meaning, its text and its place;
* `Context` : what the lexemes before leave to expect, and `Context.read`, the meaning of a lexeme;
* `Token.ofText` : the tokens of a query.
-/

set_option autoImplicit false

namespace FilterQuery

/-- What a token is. -/
inductive TokenKind where
  | selector | operator | value
  | openGroup | closeGroup
  | and | or
  | separator
deriving DecidableEq, Repr

/-- A lexeme with its meaning. -/
structure Token where
  kind : TokenKind
  /-- The text of the query, but without quotes and escapes. -/
  text : String
  span : Span
deriving DecidableEq, Repr

/-- What the lexemes before leave to expect. -/
inductive Context where
  /-- A comparison. -/
  | expression
  /-- The arguments of an operator. -/
  | arguments
  /-- The values of a list. -/
  | values
deriving DecidableEq, Repr

/-- The kind of a lexeme, and the context after it. -/
def Context.read : Context → Lexeme → TokenKind × Context
  | _, .operator _ => (.operator, .arguments)
  | .arguments, .openParen => (.openGroup, .values)
  | context, .openParen => (.openGroup, context)
  | _, .closeParen => (.closeGroup, .expression)
  | _, .semicolon => (.and, .expression)
  | .values, .comma => (.separator, .values)
  | _, .comma => (.or, .expression)
  | .expression, .word _ => (.selector, .expression)
  | .arguments, .word _ => (.value, .expression)
  | .values, .word _ => (.value, .values)
  | .arguments, .quoted .. => (.value, .expression)
  | context, .quoted .. => (.value, context)

/-- The text between quotes without the backslashes that protect the characters after them. -/
def unescape : List Char → List Char
  | [] => []
  | ['\\'] => []
  | '\\' :: c :: cs => c :: unescape cs
  | c :: cs => c :: unescape cs

/-- The text of a token that stands for `lexeme`. -/
def Lexeme.content : Lexeme → List Char
  | .quoted _ body => unescape body
  | lexeme => lexeme.source

namespace Token

/-- The tokens of placed lexemes, the first of which is read in the given context. -/
def classify : Context → List (Nat × Lexeme) → List Token
  | _, [] => []
  | context, (position, lexeme) :: rest =>
    let (kind, next) := context.read lexeme
    ⟨kind, String.ofList lexeme.content, ⟨position, byteLength lexeme.source⟩⟩ :: classify next rest

/-- The tokens of a query. -/
def ofText (text : String) : Except LexError (List Token) :=
  (Lexeme.cut text.toList).map (classify .expression)

/-- Whether `text` is read as the one value `value` after an operator. -/
def readsAs (text value : String) : Except LexError Bool :=
  (ofText ("a==" ++ text)).map fun tokens =>
    match tokens with
    | [_, _, last] => last.text = value
    | _ => false

end Token
end FilterQuery
