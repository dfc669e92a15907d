import FilterQuery.Binary64.Text
import FilterQuery.Json.Draft
import FilterQuery.Schema
import FilterQuery.Unicode.Visible

/-!
# Schemas from JSON

A schema is an object of entity types, an entity type an object of attributes, and an attribute an
object with the fields `type` or `relation`, `collection` and `case_insensitive`. An attribute may
also be an array of these four in that order, the last two of which may be left out, and a type may
be an object whose one member has the type's name and null.

* `SchemaFault` : the first thing in the text that is wrong;
* `Schema.ofText` : the schema of a text. A repeated name keeps its last declaration.
-/

set_option autoImplicit false

namespace FilterQuery

/-- A JSON value, as far as a message names it. -/
inductive JsonKind where
  | null
  | boolean (b : Bool)
  | number (n : JsonNumber)
  | string (s : String)
  | sequence
  | map
deriving DecidableEq, Repr

/-- What should stand where another kind of value does. -/
inductive SchemaPart where
  | map | fields | boolean | string | unit
deriving DecidableEq, Repr

/-- The first thing that is wrong with the text of a schema. -/
inductive SchemaFault where
  /-- The text is not JSON. -/
  | malformed
  | wrongKind (found : JsonKind) (expected : SchemaPart)
  | unknownField (name : String)
  | repeatedField (name : String)
  | unknownType (name : String)
  /-- An array of so many parts, too few for an attribute. -/
  | tooShort (parts : Nat)
  | collectionOfScalars
  | scalarAndRelation
  | neitherScalarNorRelation
deriving DecidableEq, Repr

/-! ### Wording -/

/-- The wording of a value. -/
def JsonKind.message : JsonKind → String
  | null => "null"
  | boolean b => "boolean \x60" ++ toString b ++ "\x60"
  | number (.integer n) => "integer \x60" ++ toString n ++ "\x60"
  | number (.decimal x) => "floating point \x60" ++ String.ofList x.jsonText ++ "\x60"
  | string s => "string " ++ Unicode.quoteVisible s
  | sequence => "sequence"
  | map => "map"

/-- The wording of what should stand. -/
def SchemaPart.message : SchemaPart → String
  | map => "a map"
  | fields => "struct RawAttribute"
  | boolean => "a boolean"
  | string => "a string"
  | unit => "unit"

/-- Names between backticks with commas between them. -/
def quotedNames (names : List String) : String :=
  ", ".intercalate (names.map fun name => "\x60" ++ name ++ "\x60")

/-- The names of the fields of an attribute. -/
def attributeFields : List String := ["type", "relation", "collection", "case_insensitive"]

/-- The wording of a fault; there is none for a text that is not JSON. -/
def SchemaFault.message? : SchemaFault → Option String
  | malformed => none
  | wrongKind found expected =>
    some ("invalid type: " ++ found.message ++ ", expected " ++ expected.message)
  | unknownField name =>
    some ("unknown field \x60" ++ name ++ "\x60, expected one of " ++ quotedNames attributeFields)
  | repeatedField name => some ("duplicate field \x60" ++ name ++ "\x60")
  | unknownType name =>
    some ("unknown variant \x60" ++ name ++ "\x60, expected one of " ++
      quotedNames (ValueType.all.map ValueType.name))
  | tooShort parts =>
    some ("invalid length " ++ toString parts ++ ", expected struct RawAttribute with 4 elements")
  | collectionOfScalars => some "'collection' only applies to relations"
  | scalarAndRelation =>
    some "an attribute is either a scalar 'type' or a 'relation', not both"
  | neitherScalarNorRelation => some "attribute needs a 'type' or a 'relation'"

/-! ### Reading -/

/-- The kind of a value, if there is one. -/
def Draft.kind? : Draft → Option JsonKind
  | .null => some .null
  | .boolean b => some (.boolean b)
  | .number n => some (.number n)
  | .string s => some (.string s)
  | .array .. => some .sequence
  | .object .. => some .map
  | .missing => none

namespace Schema

/-- The fault of a value that is not of the expected kind. -/
def mismatch (found : Option JsonKind) (expected : SchemaPart) : SchemaFault :=
  match found with
  | some kind => .wrongKind kind expected
  | none => .malformed

/-- Nothing, if an array or an object has its closing bracket. -/
def ended (ending : Ending) : Except SchemaFault Unit :=
  if ending = .closed then .ok () else .error .malformed

/-- The type of the given name. -/
def readTypeName (name : String) : Except SchemaFault ValueType :=
  match ValueType.ofName? name with
  | some type => .ok type
  | none => .error (.unknownType name)

/-- The type that a value names; null names none. -/
def readType : Draft → Except SchemaFault (Option ValueType)
  | .null => .ok none
  | .string name => (readTypeName name).map some
  | .object ((name, d) :: rest) ending => do
    let type ← readTypeName name
    match d with
    | .null => pure ()
    | d => .error (mismatch d.kind? .unit)
    if rest.isEmpty then pure () else .error .malformed
    ended ending
    return some type
  | _ => .error .malformed

/-- The target of a relation; null means that there is none. -/
def readRelation : Draft → Except SchemaFault (Option String)
  | .null => .ok none
  | .string target => .ok (some target)
  | d => .error (mismatch d.kind? .string)

/-- A truth value. -/
def readFlag : Draft → Except SchemaFault Bool
  | .boolean b => .ok b
  | d => .error (mismatch d.kind? .boolean)

/-- The fields of an attribute that were read so far. -/
structure Fields where
  type : Option (Option ValueType) := none
  relation : Option (Option String) := none
  collection : Option Bool := none
  caseInsensitive : Option Bool := none

/-- Reads a field that was not read before. -/
def once {α : Type} (name : String) (old : Option α) (value : Except SchemaFault α) :
    Except SchemaFault (Option α) :=
  if old.isSome then .error (.repeatedField name) else value.map some

/-- Reads a field of an attribute. -/
def readField (fields : Fields) : String × Draft → Except SchemaFault Fields
  | (name, d) =>
    match name with
    | "type" => do return { fields with type := ← once name fields.type (readType d) }
    | "relation" => do
      return { fields with relation := ← once name fields.relation (readRelation d) }
    | "collection" => do
      return { fields with collection := ← once name fields.collection (readFlag d) }
    | "case_insensitive" => do
      return { fields with caseInsensitive := ← once name fields.caseInsensitive (readFlag d) }
    | _ => .error (.unknownField name)

/-- The failure of an array that ends after `parts` parts. -/
def endedEarly (parts : Nat) (ending : Ending) : SchemaFault :=
  if ending = .closed then .tooShort parts else .malformed

/-- The fields of an attribute that is written as an array. -/
def readParts (ending : Ending) : List Draft → Except SchemaFault Fields
  | [] => .error (endedEarly 0 ending)
  | type :: rest => do
    let type ← readType type
    match rest with
    | [] => .error (endedEarly 1 ending)
    | relation :: rest =>
      let relation ← readRelation relation
      match rest with
      | [] =>
        ended ending
        return { type := some type, relation := some relation }
      | collection :: rest =>
        let collection ← readFlag collection
        match rest with
        | [] =>
          ended ending
          return { type := some type, relation := some relation, collection := some collection }
        | caseInsensitive :: rest =>
          let caseInsensitive ← readFlag caseInsensitive
          if rest.isEmpty then pure () else .error .malformed
          ended ending
          return ⟨some type, some relation, some collection, some caseInsensitive⟩

/-- The attribute with the given fields. -/
def Fields.attribute (fields : Fields) : Except SchemaFault Attribute :=
  let caseInsensitive := fields.caseInsensitive.getD false
  let collection := fields.collection.getD false
  match fields.type.join, fields.relation.join with
  | some type, none =>
    if collection then .error .collectionOfScalars else .ok ⟨.scalar type, caseInsensitive⟩
  | none, some target => .ok ⟨.relation target collection, caseInsensitive⟩
  | some _, some _ => .error .scalarAndRelation
  | none, none => .error .neitherScalarNorRelation

/-- The attribute that a value describes. -/
def readAttribute : Draft → Except SchemaFault Attribute
  | .object members ending => do
    let fields ← members.foldlM readField {}
    ended ending
    fields.attribute
  | .array parts ending => do
    let fields ← readParts ending parts
    fields.attribute
  | d => .error (mismatch d.kind? .fields)

/-- The entries of an object, each read by `read`. -/
def readTable {β : Type} (read : Draft → Except SchemaFault β) :
    Draft → Except SchemaFault (Table β)
  | .object members ending => do
    let table ← members.foldlM (fun table (name, d) => return table.insert name (← read d)) ∅
    ended ending
    return table
  | d => .error (mismatch d.kind? .map)

/-- The schema of a value. -/
def ofDraft : Draft → Except SchemaFault Schema := readTable (readTable readAttribute)

/-- The schema of a text. -/
def ofText (text : String) : Except SchemaFault Schema := do
  let (draft, more) := Draft.ofText .file text.toList
  let schema ← ofDraft draft
  if more then .error .malformed else return schema

end Schema
end FilterQuery
