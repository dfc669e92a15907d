import FilterQuery.Proofs.Json.Reading
import FilterQuery.Schema.Document

/-!
# Attributes and their fields

An attribute is an object with some of four fields, in any order.

* `AttributeField` : a field, with its name and its value;
* `Declares`, `IsFaulty` : what fields declare, or what is wrong with them;
* `Fields.Holds` : what was read are the given fields; `Fields.Holds.step` and `Fields.Holds.run`, a field
  more and more fields;
* `readAttribute_eq_ok_iff`, `readAttribute_eq_error_iff` : an attribute is read as what its fields
  declare, or refused for what is wrong with them.
-/

set_option autoImplicit false

namespace FilterQuery

/-! ### Fields -/

/-- A field of an attribute in a document. -/
inductive AttributeField where
  /-- The type of a scalar, or null. -/
  | type (type : Option ValueType)
  /-- The target of a relation, or null. -/
  | relation (target : Option String)
  | collection (flag : Bool)
  | caseInsensitive (flag : Bool)
deriving DecidableEq, Repr

namespace AttributeField

/-- The name of a field. -/
def name : AttributeField → String
  | type _ => "type"
  | relation _ => "relation"
  | collection _ => "collection"
  | caseInsensitive _ => "case_insensitive"

/-- The value of a field. -/
def json : AttributeField → Json
  | type none => .null
  | type (some t) => .string t.name
  | relation none => .null
  | relation (some target) => .string target
  | collection flag => .boolean flag
  | caseInsensitive flag => .boolean flag

end AttributeField

/-- An object with the given entries. -/
def Json.ofEntries {β : Type} (value : β → Json) (entries : List (String × β)) : Json :=
  .object (entries.map (Prod.map id value))

/-- The object of an attribute. -/
def attributeJson (fields : List AttributeField) : Json :=
  .ofEntries AttributeField.json (fields.map fun field => (field.name, field))

/-- The attribute that fields declare: a scalar if there is a type and no target, a relation if there is a
target and no type. Only relations are collections. -/
inductive Declares (fields : List AttributeField) : Attribute → Prop
  | scalar {type : ValueType} : .type (some type) ∈ fields →
      (∀ target, .relation (some target) ∉ fields) → .collection true ∉ fields →
      Declares fields ⟨.scalar type, decide (.caseInsensitive true ∈ fields)⟩
  | relation {target : String} : .relation (some target) ∈ fields →
      (∀ type, .type (some type) ∉ fields) →
      Declares fields
        ⟨.relation target (decide (.collection true ∈ fields)),
          decide (.caseInsensitive true ∈ fields)⟩

/-- What is wrong with the fields of an attribute that declare none. -/
inductive IsFaulty (fields : List AttributeField) : SchemaFault → Prop
  | both {type : ValueType} {target : String} : .type (some type) ∈ fields →
      .relation (some target) ∈ fields → IsFaulty fields .scalarAndRelation
  | neither : (∀ type, .type (some type) ∉ fields) → (∀ target, .relation (some target) ∉ fields) →
      IsFaulty fields .neitherScalarNorRelation
  | collection {type : ValueType} : .type (some type) ∈ fields →
      (∀ target, .relation (some target) ∉ fields) → .collection true ∈ fields →
      IsFaulty fields .collectionOfScalars

theorem declares_or_isFaulty (fields : List AttributeField) :
    (∃ a, Declares fields a) ∨ ∃ fault, IsFaulty fields fault := by
  by_cases htype : ∃ type, .type (some type) ∈ fields
  · obtain ⟨type, htype⟩ := htype
    by_cases hrelation : ∃ target, .relation (some target) ∈ fields
    · obtain ⟨target, hrelation⟩ := hrelation
      exact .inr ⟨_, .both htype hrelation⟩
    · rw [not_exists] at hrelation
      by_cases hcollection : .collection true ∈ fields
      · exact .inr ⟨_, .collection htype hrelation hcollection⟩
      · exact .inl ⟨_, .scalar htype hrelation hcollection⟩
  · rw [not_exists] at htype
    by_cases hrelation : ∃ target, .relation (some target) ∈ fields
    · obtain ⟨target, hrelation⟩ := hrelation
      exact .inl ⟨_, .relation hrelation htype⟩
    · rw [not_exists] at hrelation
      exact .inr ⟨_, .neither htype hrelation⟩

/-- The fields of a document that declare an attribute. -/
def Attribute.fields (a : Attribute) : List AttributeField :=
  match a.kind with
  | .scalar type => [.type (some type), .caseInsensitive a.caseInsensitive]
  | .relation target collection =>
    [.relation (some target), .collection collection, .caseInsensitive a.caseInsensitive]

theorem Attribute.declares_fields (a : Attribute) : Declares a.fields a := by
  obtain ⟨type | ⟨target, collection⟩, caseInsensitive⟩ := a
  · have h : Declares (fields ⟨.scalar type, caseInsensitive⟩) ⟨.scalar type, _⟩ :=
      .scalar List.mem_cons_self (by simp [fields]) (by simp [fields])
    simpa [fields] using h
  · have h : Declares (fields ⟨.relation target collection, caseInsensitive⟩)
        ⟨.relation target _, _⟩ := .relation List.mem_cons_self (by simp [fields])
    simpa [fields] using h

theorem Attribute.nodup_fields (a : Attribute) : (a.fields.map (·.name)).Nodup := by
  obtain ⟨type | ⟨target, collection⟩, caseInsensitive⟩ := a
  · have h : ["type", "case_insensitive"].Nodup := by decide
    exact h
  · have h : ["relation", "collection", "case_insensitive"].Nodup := by decide
    exact h

/-! ### Reading -/

namespace Schema

/-- What was read of an attribute are the given fields. -/
structure Fields.Holds (read : Fields) (fields : List AttributeField) : Prop where
  type : ∀ x, read.type = some x ↔ .type x ∈ fields
  relation : ∀ x, read.relation = some x ↔ .relation x ∈ fields
  collection : ∀ x, read.collection = some x ↔ .collection x ∈ fields
  caseInsensitive : ∀ x, read.caseInsensitive = some x ↔ .caseInsensitive x ∈ fields

theorem Fields.holds_empty : Fields.Holds {} [] where
  type := by simp
  relation := by simp
  collection := by simp
  caseInsensitive := by simp

theorem readType_json (x : Option ValueType) :
    readType (AttributeField.type x).json.draft = .ok x := by
  cases x with
  | none => rfl
  | some type => cases type <;> rfl

theorem readRelation_json (x : Option String) :
    readRelation (AttributeField.relation x).json.draft = .ok x := by
  cases x <;> rfl

section Step

variable {α : Type} {fields : List AttributeField} {field : AttributeField} {old : Option α}
  {constructor : α → AttributeField}

theorem eq_none_of_new (h : ∀ x, old = some x ↔ constructor x ∈ fields)
    (hname : ∀ x, (constructor x).name = field.name) (hnew : field.name ∉ fields.map (·.name)) :
    old = none := by
  cases hold : old with
  | none => rfl
  | some x =>
    have hmem : (constructor x).name ∈ fields.map (·.name) := List.mem_map_of_mem ((h x).1 hold)
    rw [hname] at hmem
    exact absurd hmem hnew

theorem holds_new (h : ∀ x, old = some x ↔ constructor x ∈ fields) (hold : old = none)
    (hinj : Function.Injective constructor) (x : α) :
    ∀ y, some x = some y ↔ constructor y ∈ fields ++ [constructor x] := by
  intro y
  have hy : constructor y ∉ fields := by
    rw [← h, hold]
    rintro ⟨⟩
  rw [List.mem_append, List.mem_singleton, hinj.eq_iff, Option.some.injEq, eq_comm]
  exact ⟨.inr, fun h => h.resolve_left hy⟩

theorem holds_old (h : ∀ x, old = some x ↔ constructor x ∈ fields)
    (hother : ∀ x, constructor x ≠ field) :
    ∀ x, old = some x ↔ constructor x ∈ fields ++ [field] := by
  intro x
  rw [h, List.mem_append, List.mem_singleton]
  exact ⟨.inl, fun h => h.resolve_right (hother x)⟩

end Step

/-- A field whose name is new is added to what was read. -/
theorem Fields.Holds.step {read : Fields} {fields : List AttributeField} {field : AttributeField}
    (h : read.Holds fields) (hnew : field.name ∉ fields.map (·.name)) :
    ∃ read', readField read (field.name, field.json.draft) = .ok read' ∧
      read'.Holds (fields ++ [field]) := by
  obtain ⟨htype, hrelation, hcollection, hcase⟩ := h
  cases field with
  | type x =>
    have hold := eq_none_of_new htype (fun _ => rfl) hnew
    refine ⟨{ read with type := some x }, ?_, ?_⟩
    · simp only [AttributeField.name, readField, once, hold, readType_json]
      rfl
    · exact ⟨holds_new htype hold (fun _ _ => AttributeField.type.inj) x,
        holds_old hrelation (by simp), holds_old hcollection (by simp), holds_old hcase (by simp)⟩
  | relation x =>
    have hold := eq_none_of_new hrelation (fun _ => rfl) hnew
    refine ⟨{ read with relation := some x }, ?_, ?_⟩
    · simp only [AttributeField.name, readField, once, hold, readRelation_json]
      rfl
    · exact ⟨holds_old htype (by simp),
        holds_new hrelation hold (fun _ _ => AttributeField.relation.inj) x,
        holds_old hcollection (by simp), holds_old hcase (by simp)⟩
  | collection x =>
    have hold := eq_none_of_new hcollection (fun _ => rfl) hnew
    refine ⟨{ read with collection := some x }, ?_, ?_⟩
    · simp only [AttributeField.name, readField, once, hold]
      rfl
    · exact ⟨holds_old htype (by simp), holds_old hrelation (by simp),
        holds_new hcollection hold (fun _ _ => AttributeField.collection.inj) x,
        holds_old hcase (by simp)⟩
  | caseInsensitive x =>
    have hold := eq_none_of_new hcase (fun _ => rfl) hnew
    refine ⟨{ read with caseInsensitive := some x }, ?_, ?_⟩
    · simp only [AttributeField.name, readField, once, hold]
      rfl
    · exact ⟨holds_old htype (by simp), holds_old hrelation (by simp), holds_old hcollection (by simp),
        holds_new hcase hold (fun _ _ => AttributeField.caseInsensitive.inj) x⟩

/-- The fields of an attribute are read one by one. -/
theorem Fields.Holds.run {read : Fields} {fields : List AttributeField} (h : read.Holds fields)
    (more : List AttributeField) (hnames : ((fields ++ more).map (·.name)).Nodup) :
    ∃ read', (more.map fun field => (field.name, field.json.draft)).foldlM readField read =
      .ok read' ∧ read'.Holds (fields ++ more) := by
  induction more generalizing read fields with
  | nil => exact ⟨read, rfl, by rwa [List.append_nil]⟩
  | cons field more ih =>
    -- names are not repeated, so no field with this name was read before
    have hnew : field.name ∉ fields.map (·.name) := by
      rw [List.map_append, List.map_cons] at hnames
      have hdisjoint := (List.nodup_append.1 hnames).2.2
      intro hmem
      exact hdisjoint _ hmem _ List.mem_cons_self rfl
    obtain ⟨next, hstep, hnext⟩ := h.step hnew
    rw [List.append_cons] at hnames
    obtain ⟨read', hrun, hread'⟩ := ih hnext hnames
    refine ⟨read', ?_, ?_⟩
    · rw [List.map_cons, List.foldlM_cons, hstep]
      exact hrun
    · rwa [List.append_assoc] at hread'

theorem getD_eq_decide {old : Option Bool} {p : Prop} [Decidable p] (h : old = some true ↔ p) :
    old.getD false = decide p := by
  rw [Bool.eq_iff_iff, decide_eq_true_iff, ← h]
  cases old with
  | none => simp
  | some b => simp

theorem join_eq_none {α : Type} {old : Option (Option α)} (h : ∀ x, old ≠ some (some x)) :
    old.join = none := by
  cases old with
  | none => rfl
  | some x =>
    cases x with
    | none => rfl
    | some x => exact absurd rfl (h x)

theorem Fields.Holds.attribute {read : Fields} {fields : List AttributeField} {a : Attribute}
    (h : read.Holds fields) (ha : Declares fields a) : read.attribute = .ok a := by
  have hcollection := getD_eq_decide (h.collection true)
  have hcase := getD_eq_decide (h.caseInsensitive true)
  unfold Fields.attribute
  rw [hcollection, hcase]
  cases ha with
  | scalar htype hrelation hno =>
    rw [(h.type _).2 htype, join_eq_none fun x hx => hrelation x ((h.relation _).1 hx),
      decide_eq_false hno]
    rfl
  | relation hrelation htype =>
    rw [(h.relation _).2 hrelation, join_eq_none fun x hx => htype x ((h.type _).1 hx)]
    rfl

theorem Fields.Holds.fault {read : Fields} {fields : List AttributeField} {fault : SchemaFault}
    (h : read.Holds fields) (hf : IsFaulty fields fault) : read.attribute = .error fault := by
  have hcollection := getD_eq_decide (h.collection true)
  unfold Fields.attribute
  rw [hcollection]
  cases hf with
  | both htype hrelation =>
    rw [(h.type _).2 htype, (h.relation _).2 hrelation]
    rfl
  | neither htype hrelation =>
    rw [join_eq_none fun x hx => htype x ((h.type _).1 hx),
      join_eq_none fun x hx => hrelation x ((h.relation _).1 hx)]
  | collection htype hrelation hyes =>
    rw [(h.type _).2 htype, join_eq_none fun x hx => hrelation x ((h.relation _).1 hx),
      decide_eq_true hyes]
    rfl

section Attribute

variable {fields : List AttributeField} (hnames : (fields.map (·.name)).Nodup)
include hnames

theorem exists_readAttribute : ∃ read : Fields, read.Holds fields ∧
    readAttribute (attributeJson fields).draft = read.attribute := by
  obtain ⟨read, hrun, hread⟩ := Fields.holds_empty.run fields hnames
  refine ⟨read, hread, ?_⟩
  have hmembers : (fields.map fun field => (field.name, field)).map
      (Prod.map id Json.draft ∘ Prod.map id AttributeField.json) =
      fields.map fun field => (field.name, field.json.draft) := by
    rw [List.map_map]
    rfl
  rw [attributeJson, Json.ofEntries, Json.draft, Json.memberDrafts_eq_map, List.map_map, hmembers,
    readAttribute, hrun]
  rfl

theorem readAttribute_eq_ok_iff {a : Attribute} :
    readAttribute (attributeJson fields).draft = .ok a ↔ Declares fields a := by
  obtain ⟨read, hread, hattribute⟩ := exists_readAttribute hnames
  rw [hattribute]
  refine ⟨?_, hread.attribute⟩
  intro h
  rcases declares_or_isFaulty fields with ⟨b, hb⟩ | ⟨fault, hfault⟩
  · rw [hread.attribute hb] at h
    cases h
    exact hb
  · rw [hread.fault hfault] at h
    cases h

theorem readAttribute_eq_error_iff {fault : SchemaFault} :
    readAttribute (attributeJson fields).draft = .error fault ↔ IsFaulty fields fault := by
  obtain ⟨read, hread, hattribute⟩ := exists_readAttribute hnames
  rw [hattribute]
  refine ⟨?_, hread.fault⟩
  intro h
  rcases declares_or_isFaulty fields with ⟨b, hb⟩ | ⟨fault', hfault⟩
  · rw [hread.attribute hb] at h
    cases h
  · rw [hread.fault hfault] at h
    cases h
    exact hfault

end Attribute

end Schema
end FilterQuery
