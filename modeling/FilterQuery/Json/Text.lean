import FilterQuery.Binary64.Text
import FilterQuery.Json

/-!
# The compact text of a JSON value

`Json.text` : the value on one line, without blanks between its parts. In strings only quotes,
backslashes and control characters are escaped.
-/

set_option autoImplicit false

namespace FilterQuery

/-- A hexadecimal digit, in lowercase. -/
def hexDigit (n : Nat) : Char := Nat.digitChar (n % 16)

/-- A character as it stands inside a quoted string. -/
def escapeJson (c : Char) : List Char :=
  if c = '"' then ['\\', '"']
  else if c = '\\' then ['\\', '\\']
  else if c = '\x08' then ['\\', 'b']
  else if c = '\x0c' then ['\\', 'f']
  else if c = '\n' then ['\\', 'n']
  else if c = '\r' then ['\\', 'r']
  else if c = '\t' then ['\\', 't']
  else if c.toNat < 0x20 then ['\\', 'u', '0', '0', hexDigit (c.toNat / 16), hexDigit c.toNat]
  else [c]

/-- A quoted string. -/
def quoteJson (s : String) : List Char := '"' :: s.toList.flatMap escapeJson ++ ['"']

/-- The text of a number. -/
def JsonNumber.text : JsonNumber → List Char
  | integer n => (toString n).toList
  | decimal x => x.jsonText

namespace Json

mutual

/-- The text of a value. -/
def text : Json → List Char
  | null => ['n', 'u', 'l', 'l']
  | boolean true => ['t', 'r', 'u', 'e']
  | boolean false => ['f', 'a', 'l', 's', 'e']
  | number n => n.text
  | string s => quoteJson s
  | array items => '[' :: [','].intercalate (texts items) ++ [']']
  | object members => '\x7b' :: [','].intercalate (memberTexts members) ++ ['\x7d']

/-- The texts of the items of an array. -/
def texts : List Json → List (List Char)
  | [] => []
  | v :: vs => v.text :: texts vs

/-- The texts of the members of an object. -/
def memberTexts : List (String × Json) → List (List Char)
  | [] => []
  | (name, v) :: rest => (quoteJson name ++ ':' :: v.text) :: memberTexts rest

end

end Json
end FilterQuery
