/-!
# Paths to attributes

A path is a list of names. All but the last lead from entity to entity along relations, the last one
names an attribute.

* `AttributePath.parse` : the path that a selector writes, with points between its segments;
* `AttributePath.relations`, `AttributePath.attributeName`, `AttributePath.text`.
-/

set_option autoImplicit false

namespace FilterQuery

/-- The parts of a text between the characters `mark`. -/
def splitAt (mark : Char) (text : String) : List String :=
  (text.toList.splitOn mark).map String.ofList

/-- A path to an attribute. -/
structure AttributePath where
  segments : List String
deriving DecidableEq, Repr

namespace AttributePath

/-- The path that a selector writes. -/
def parse (selector : String) : AttributePath := ⟨splitAt '.' selector⟩

/-- The relations on the way. -/
def relations (p : AttributePath) : List String := p.segments.dropLast

/-- The attribute at the end, nameless if there are no segments. -/
def attributeName (p : AttributePath) : String := p.segments.getLast?.getD ""

/-- Whether there are relations on the way. -/
def isNested (p : AttributePath) : Bool := 1 < p.segments.length

/-- The segments with points between them. -/
def text (p : AttributePath) : List Char := ['.'].intercalate (p.segments.map String.toList)

end AttributePath
end FilterQuery
