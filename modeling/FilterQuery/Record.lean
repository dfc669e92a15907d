import FilterQuery.Json
import FilterQuery.Predicate

/-!
# Records and their evaluation

* `Record` : what can be asked of a record, with JSON values as its instance;
* `reachable` : the records that a chain of relations leads to;
* `Condition.holdsOn` : a condition holds on a record if a record that its relations lead to has an
  attribute that satisfies it;
* `Predicate.evaluate` : the same for predicates;
* `Predicate.searchFrom` : one pass through many records, which gives `Predicate.find`, the records that
  are found, and `Predicate.trace`, the tests that are made.
-/

set_option autoImplicit false

namespace FilterQuery

/-- Things with scalar attributes and relations to others of their kind. -/
class Record (ρ : Type) where
  /-- The value of an attribute, null if there is none. -/
  scalar : ρ → String → Value
  /-- The records that a relation leads to. -/
  related : ρ → String → List ρ

namespace Json

/-- The value of a number: an integer if it is one of 64 bits with sign. -/
def numberValue : JsonNumber → Value
  | .integer n =>
    if Int64.minValue.toInt ≤ n ∧ n ≤ Int64.maxValue.toInt then .integer (Int64.ofInt n)
    else .decimal (Binary64.ofInt n)
  | .decimal x => .decimal x

/-- The value of a member that is a string, a truth value or a number. -/
def scalar (record : Json) (name : String) : Value :=
  match record.get? name with
  | some (.string s) => .string s
  | some (.boolean b) => .boolean b
  | some (.number n) => numberValue n
  | _ => .null

/-- The items of a member that is an array, or a member that is an object. -/
def related (record : Json) (name : String) : List Json :=
  match record.get? name with
  | some (.array items) => items
  | some (.object members) => [.object members]
  | _ => []

end Json

instance : Record Json := ⟨Json.scalar, Json.related⟩

section
variable {ρ : Type} [Record ρ]

/-- The records that a chain of relations leads to. -/
def reachable (record : ρ) (relations : List String) : List ρ :=
  relations.foldl (fun frontier relation => frontier.flatMap (Record.related · relation)) [record]

/-- Whether some record that the relations of the path lead to satisfies a condition. -/
def Condition.holdsOn (c : Condition) (record : ρ) : Bool :=
  (reachable record c.path.relations).any fun r =>
    c.holdsFor (Record.scalar r c.path.attributeName)

/-- Whether a predicate holds on a record, and the conditions that were tested to find out. -/
def Predicate.evaluate (p : Predicate) (record : ρ) : Formula.Outcome Condition :=
  Formula.evaluate (·.holdsOn record) p

/-- What a search through records comes to. -/
structure Search (ρ : Type) where
  /-- The records on which the predicate holds, with their places. -/
  found : List (ρ × Nat)
  /-- The conditions that were tested. -/
  trace : List (Condition × Bool)

/-- Searches records, the first of which is at `place`, one after the other. -/
def Predicate.searchFrom (p : Predicate) : (place : Nat) → List ρ → Search ρ
  | _, [] => ⟨[], []⟩
  | place, r :: records =>
    let outcome := Predicate.evaluate p r
    let rest := searchFrom p (place + 1) records
    ⟨if outcome.holds then (r, place) :: rest.found else rest.found, outcome.trace ++ rest.trace⟩

/-- The records on which a predicate holds, in order. -/
def Predicate.find (p : Predicate) (records : List ρ) : List ρ :=
  (Predicate.searchFrom p 0 records).found.map Prod.fst

/-- The places of the records on which a predicate holds. -/
def Predicate.findIndexes (p : Predicate) (records : List ρ) : List Nat :=
  (Predicate.searchFrom p 0 records).found.map Prod.snd

/-- The conditions that are tested to find the records on which a predicate holds. -/
def Predicate.trace (p : Predicate) (records : List ρ) : List (Condition × Bool) :=
  (Predicate.searchFrom p 0 records).trace

end
end FilterQuery
