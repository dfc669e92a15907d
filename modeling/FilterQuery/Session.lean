import FilterQuery.Diagnosis
import FilterQuery.Record
import FilterQuery.Schema.Document

/-!
# Sessions

A session keeps a schema, options, the predicate compiled last and records, each of which can be
replaced. A step that fails leaves the session as it was.
-/

set_option autoImplicit false

namespace FilterQuery

/-- What a session keeps. -/
structure Session where
  schema : Schema
  options : Options
  predicate : Option Predicate
  records : List Json

namespace Session

/-- A session without types, predicate and records. -/
def start : Session := ⟨∅, {}, none, []⟩

/-- Declares an entity type, in place of one of the same name. -/
def declare (s : Session) (name : String) (entity : EntityType) : Session :=
  { s with schema := s.schema.insert name entity }

/-- Replaces the schema by that of a text. -/
def load (s : Session) (text : String) : Except SchemaFault Session :=
  (Schema.ofText text).map fun schema => { s with schema := schema }

/-- Sets the options that are given. -/
def configure (s : Session) (wildcardEquality caseInsensitiveStrings : Option Bool) : Session :=
  { s with options := ⟨wildcardEquality.getD s.options.wildcardEquality,
      caseInsensitiveStrings.getD s.options.caseInsensitiveStrings⟩ }

/-- Compiles a query on entities of the type `root` and keeps its predicate. -/
def compile [PatternSize] (s : Session) (query root : String) : Except QueryError Session :=
  (Predicate.ofText query s.schema root s.options).map fun p => { s with predicate := some p }

/-- Whether two sessions have a predicate and it is the same. -/
def samePredicate (s t : Session) : Bool :=
  match s.predicate, t.predicate with
  | some p, some q => Predicate.agrees p q
  | _, _ => false

/-- Replaces the records. -/
def store (s : Session) (records : List Json) : Session := { s with records := records }

end Session
end FilterQuery
