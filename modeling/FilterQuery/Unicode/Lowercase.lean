import FilterQuery.Unicode.CasedTable
import FilterQuery.Unicode.LowercaseTable

/-!
# Lowercase text

* `isCased`, `isIgnorable` : the classes that the rule for the final sigma looks at;
* `lowercaseChar` : the lowercase of one character away from any context;
* `lowercase` : the lowercase of a text. A capital sigma becomes the final form where a cased
  character stands before it and none after it, looking through the case-ignorable ones.
-/

set_option autoImplicit false

namespace FilterQuery.Unicode

/-- Whether `c` is a lowercase, uppercase or titlecase letter. -/
def isCased (c : Char) : Bool := inRanges casedTable c

/-- Whether casing looks through `c`. -/
def isIgnorable (c : Char) : Bool := inRanges ignorableTable c

/-- The lowercase of a character other than the capital sigma at the end of a word. -/
def lowercaseChar (c : Char) : List Char :=
  if c = '\u0130' then ['i', '\u0307'] else [shiftBy lowercaseTable c]

/-- Whether the first character that is not ignorable is cased. -/
def startsCased (cs : List Char) : Bool :=
  match cs.find? (! isIgnorable ·) with
  | some c => isCased c
  | none => false

/-- What `startsCased` says of the text read backwards once `c` is added at its end. -/
def endsCased (before : Bool) (c : Char) : Bool :=
  if isIgnorable c then before else isCased c

/-- The lowercase of a text that follows one that ends cased or not. -/
def lowercaseAfter : Bool → List Char → List Char
  | _, [] => []
  | before, c :: cs =>
    (if c = 'Σ' then [if before && ! startsCased cs then 'ς' else 'σ'] else lowercaseChar c) ++
      lowercaseAfter (endsCased before c) cs

/-- The lowercase of a text. -/
def lowercase (cs : List Char) : List Char := lowercaseAfter false cs

end FilterQuery.Unicode
