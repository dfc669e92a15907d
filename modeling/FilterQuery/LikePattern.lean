import FilterQuery.Span
import FilterQuery.Unicode.Fold

/-!
# Patterns

A pattern with stars matches the texts that it becomes when each star is replaced by some text; a
pattern without stars matches the texts that contain it. Characters may be compared up to case.

* `PatternSize` : how large patterns are, a parameter of all that makes patterns;
* `LikePattern` : a pattern, and `LikePattern.ofSource?`, unless it is too large;
* `LikePattern.accepts` : whether a text matches.
-/

set_option autoImplicit false

namespace FilterQuery

/-- The star, which stands for any text. -/
def star : Char := '*'

/-- How many bytes a pattern takes, by its text and by whether characters are compared up to case.
This is for the matcher to say. -/
class PatternSize where
  patternSize : (source : List Char) → (caseInsensitive : Bool) → Nat

export PatternSize (patternSize)

/-- An estimate, with a share for each byte and a larger one for each star. -/
instance PatternSize.estimate : PatternSize where
  patternSize source _ := 24 * byteLength source + 420 * source.count star

/-- The largest size of a pattern. -/
def maxPatternSize : Nat := 1048576

/-- A pattern. -/
structure LikePattern where
  source : String
  /-- Whether characters are compared up to case. -/
  caseInsensitive : Bool
deriving DecidableEq, Repr

/-- The wording of the one error there is. -/
def patternTooLarge : String :=
  "Compiled regex exceeds size limit of " ++ toString maxPatternSize ++ " bytes."

namespace LikePattern

/-- The pattern that a text writes, unless it is too large. -/
def ofSource? [PatternSize] (source : String) (caseInsensitive : Bool) : Option LikePattern :=
  if patternSize source.toList caseInsensitive ≤ maxPatternSize then some ⟨source, caseInsensitive⟩
  else none

/-- What follows `piece` at the start of a text. -/
def after? : (piece text : List Char) → Option (List Char)
  | [], text => some text
  | p :: ps, c :: cs => if p = c then after? ps cs else none
  | _ :: _, [] => none

/-- What follows the first place in a text where `piece` stands. -/
def afterFirst? (piece : List Char) : List Char → Option (List Char)
  | [] => after? piece []
  | c :: cs =>
    match after? piece (c :: cs) with
    | some rest => some rest
    | none => afterFirst? piece cs

/-- Whether a text is some text, then the first of the pieces, then some text, then the next, and so
on, with nothing after the last piece. -/
def matchesAfterStar : (pieces : List (List Char)) → (text : List Char) → Bool
  | [], text => text.isEmpty
  | [last], text => last.isSuffixOf text
  | piece :: pieces, text =>
    match afterFirst? piece text with
    | some rest => matchesAfterStar pieces rest
    | none => false

/-- Whether the pieces between the stars of a pattern make up a text. -/
def matchesPieces : (pieces : List (List Char)) → (text : List Char) → Bool
  | [], _ => false
  | [only], text => (afterFirst? only text).isSome
  | first :: pieces, text =>
    match after? first text with
    | some rest => matchesAfterStar pieces rest
    | none => false

/-- A text as far as the pattern tells characters apart. -/
def view (p : LikePattern) (text : List Char) : List Char :=
  if p.caseInsensitive then text.map Unicode.fold else text

/-- Whether a text matches. -/
def accepts (p : LikePattern) (text : List Char) : Bool :=
  matchesPieces ((p.view p.source.toList).splitOn star) (p.view text)

end LikePattern
end FilterQuery
