import FilterQuery.Lexeme

/-!
# Quoting values

`quoteIfNeeded` : the text of a value in a query: the value itself where it reads as one word, else
between double quotes with a backslash before each quote and backslash inside.
-/

set_option autoImplicit false

namespace FilterQuery

/-- The characters that a value may hold without quotes. -/
def isPlain (c : Char) : Bool := isWordChar c && c ≠ '\x0c' && c ≠ '\\'

/-- A character as it stands between double quotes. -/
def escapeQuoted (c : Char) : List Char :=
  if c = '"' ∨ c = '\\' then ['\\', c] else [c]

/-- The text of a value between double quotes. -/
def quote (value : List Char) : List Char := '"' :: value.flatMap escapeQuoted ++ ['"']

/-- The text of a value, between quotes unless it reads as one word. -/
def quoteIfNeeded (value : List Char) : List Char :=
  if value ≠ [] ∧ value.all isPlain then value else quote value

end FilterQuery
