import FilterQuery.AttributePath
import FilterQuery.Schema

/-!
# Finding the attribute that a selector names

The segments of a selector are followed from a root type: each but the last must be a relation of
the type reached so far, the last one a scalar.

* `Resolution` : the scalar that was found and the steps that led to it;
* `ResolveError` : the first segment that leads nowhere;
* `resolve` : one of the two, for every schema, root and selector.
-/

set_option autoImplicit false

namespace FilterQuery

/-- A relation that was followed. -/
structure ResolutionStep where
  relation : String
  target : String
  collection : Bool
deriving DecidableEq, Repr

/-- A scalar attribute and the way to it. -/
structure Resolution where
  type : ValueType
  caseInsensitive : Bool
  steps : List ResolutionStep
deriving DecidableEq, Repr

/-- What is wrong with a segment. -/
inductive SegmentFault where
  /-- The type has no such attribute. -/
  | missing
  /-- It is a scalar, but more segments follow. -/
  | notRelation
  /-- It is a relation, but the last segment. -/
  | notScalar
deriving DecidableEq, Repr

/-- Why a selector names no scalar attribute. -/
inductive ResolveError where
  /-- A type is not declared. -/
  | unknownType (name : String)
  /-- A segment, the one after `index` others, leads nowhere from the type `type`, which has the
  attributes `available`. -/
  | unknownAttribute (path segment : String) (index : Nat) (type : String) (fault : SegmentFault)
      (available : List String)
deriving DecidableEq, Repr

/-- The wording of an error. -/
def ResolveError.message : ResolveError → String
  | unknownType name => "type '" ++ name ++ "' is not declared"
  | unknownAttribute path segment index type _ _ =>
    "cannot resolve '" ++ segment ++ "' (segment " ++ toString index ++ ") of '" ++ path ++
      "' on type '" ++ type ++ "'"

namespace Resolution

/-- The same resolution from one step further back. -/
def after (step : ResolutionStep) (r : Resolution) : Resolution :=
  { r with steps := step :: r.steps }

/-- Follows the segments `segment :: rest` of `path` from the type `type`, after `index` others. -/
def follow (schema : Schema) (path type : String) (index : Nat) :
    (segment : String) → (rest : List String) → Except ResolveError Resolution
  | segment, rest =>
    match schema.get? type with
    | none => .error (.unknownType type)
    | some entity =>
      let fail fault := .error (.unknownAttribute path segment index type fault entity.names)
      match entity.get? segment, rest with
      | none, _ => fail .missing
      | some ⟨.scalar valueType, caseInsensitive⟩, [] => .ok ⟨valueType, caseInsensitive, []⟩
      | some ⟨.scalar _, _⟩, _ :: _ => fail .notRelation
      | some ⟨.relation _ _, _⟩, [] => fail .notScalar
      | some ⟨.relation target collection, _⟩, next :: rest =>
        (follow schema path target (index + 1) next rest).map (after ⟨segment, target, collection⟩)

end Resolution

/-- The scalar attribute that a selector names, from the type `root`. -/
def resolve (schema : Schema) (root selector : String) : Except ResolveError Resolution :=
  match splitAt '.' selector with
  | [] => .error (.unknownType root)
  | segment :: rest => Resolution.follow schema selector root 0 segment rest

end FilterQuery
