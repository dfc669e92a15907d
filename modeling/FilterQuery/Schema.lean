import FilterQuery.Table
import FilterQuery.ValueType

/-!
# Schemas

A schema declares entity types, and an entity type attributes: scalars with a type of value, and
relations to entities of a type, which need not be declared.

* `Attribute`, `EntityType`, `Schema`.
-/

set_option autoImplicit false

namespace FilterQuery

/-- What an attribute holds. -/
inductive AttributeKind where
  /-- One value. -/
  | scalar (type : ValueType)
  /-- One entity of the type `target`, or a collection of them. -/
  | relation (target : String) (collection : Bool)
deriving DecidableEq, Repr

/-- An attribute of an entity type. -/
structure Attribute where
  kind : AttributeKind
  /-- Whether comparisons of its strings ignore case. -/
  caseInsensitive : Bool
deriving DecidableEq, Repr

namespace Attribute

/-- A case-sensitive scalar. -/
def scalar (type : ValueType) : Attribute := ⟨.scalar type, false⟩

/-- A relation. -/
def relation (target : String) (collection : Bool) : Attribute :=
  ⟨.relation target collection, false⟩

/-- The same attribute without regard to case. -/
def ignoringCase (a : Attribute) : Attribute := { a with caseInsensitive := true }

end Attribute

/-- The attributes of an entity type by name. -/
abbrev EntityType := Table Attribute

/-- The entity types by name. -/
abbrev Schema := Table EntityType

end FilterQuery
