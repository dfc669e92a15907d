import FilterQuery.Unicode.Ranges
import FilterQuery.Unicode.UnprintableTable

/-!
# Text made visible

`quoteVisible` : a text between double quotes, with an escape in place of each character that would
not show as itself.
-/

set_option autoImplicit false

namespace FilterQuery.Unicode

/-- Whether `c` shows as itself. -/
def isPrintable (c : Char) : Bool := ! inRanges unprintableTable c

/-- A character as it stands in a visible text. -/
def escapeVisible (c : Char) : List Char :=
  if c = '\x00' then ['\\', '0']
  else if c = '\t' then ['\\', 't']
  else if c = '\n' then ['\\', 'n']
  else if c = '\r' then ['\\', 'r']
  else if c = '"' then ['\\', '"']
  else if c = '\\' then ['\\', '\\']
  else if isPrintable c then [c]
  else ['\\', 'u', '\x7b'] ++ Nat.toDigits 16 c.toNat ++ ['\x7d']

/-- A text between double quotes. -/
def quoteVisible (s : String) : String :=
  String.ofList ('"' :: s.toList.flatMap escapeVisible ++ ['"'])

end FilterQuery.Unicode
