import FilterQuery.Unicode.FoldTable

/-!
# Equality up to case

`fold c` : the character that stands for all those that differ from `c` only in case, by simple
case folding.
-/

set_option autoImplicit false

namespace FilterQuery.Unicode

/-- The simple case folding of a character. -/
def fold (c : Char) : Char := shiftBy foldTable c

end FilterQuery.Unicode
