import FilterQuery.Proofs.Schema.Attributes
import FilterQuery.Proofs.Table

/-!
# Schemas that are written and schemas that are built

A document declares types one after the other, and the attributes of a type. Reading it comes to the same
as building the schema declaration by declaration, and one faulty attribute spoils it all.

* `TypeOutline`, `SchemaOutline` : the attributes of a type in a document, and a document;
* `Schema.declared` : the schema that declarations build up;
* `readTable_ofEntries`, `readTable_eq_error_iff` : the entries of an object are read one by one, and the
  first fault counts;
* `SchemaOutline.reads_as_declared` : the schema of a document, or the fault of its first faulty attribute;
* `SchemaOutline.exists_ofText_eq` : whatever is declared can be written.
-/

set_option autoImplicit false

namespace FilterQuery

/-! ### Documents -/

/-- The attributes of a type in a document, each with its fields. -/
abbrev TypeOutline := List (String × List AttributeField)

/-- A document: the types, one after the other. -/
abbrev SchemaOutline := List (String × TypeOutline)

/-- Declarations of types, one after the other, each with those of its attributes. -/
abbrev SchemaDeclarations := List (String × List (String × Attribute))

namespace SchemaOutline

variable (outline : SchemaOutline)

/-- The object of a document. -/
def json : Json := .ofEntries (.ofEntries attributeJson) outline

/-- No attribute has a field twice. -/
def IsProper : Prop := ∀ t ∈ outline, ∀ a ∈ t.2, (a.2.map (·.name)).Nodup

/-- The document declares the same as the declarations, one by one. -/
def Spells (declarations : SchemaDeclarations) : Prop :=
  List.Forall₂ (fun t d => t.1 = d.1 ∧
    List.Forall₂ (fun a b => a.1 = b.1 ∧ Declares a.2 b.2) t.2 d.2) outline declarations

end SchemaOutline

namespace Schema

/-- The schema that declarations build up, one after the other. -/
def declared (declarations : SchemaDeclarations) : Schema :=
  Table.ofList (declarations.map (Prod.map id Table.ofList))

/-- The schema knows the types that are declared, with the attributes of the last declaration of each. It
knows these by the last declaration of each of them, and lists their names in the order of their bytes. -/
structure Answers (schema : Schema) (declarations : SchemaDeclarations) : Prop where
  undeclared : ∀ type, declarations.reverse.lookup type = none → schema.get? type = none
  declared : ∀ type attributes, declarations.reverse.lookup type = some attributes →
    ∃ entity, schema.get? type = some entity ∧
      (∀ name, entity.get? name = attributes.reverse.lookup name) ∧
      (∀ name, name ∈ entity.names ↔ name ∈ attributes.map Prod.fst) ∧
      entity.names.Pairwise fun a b => bytes a < bytes b

theorem get?_declared (declarations : SchemaDeclarations) (type : String) :
    (declared declarations).get? type = (declarations.reverse.lookup type).map Table.ofList := by
  rw [declared, Table.get?_ofList, ← List.map_reverse, Table.lookup_map]

theorem answers_declared (declarations : SchemaDeclarations) :
    (declared declarations).Answers declarations where
  undeclared type h := by
    rw [get?_declared, h]
    rfl
  declared type attributes h := by
    refine ⟨Table.ofList attributes, ?_, Table.get?_ofList attributes, ?_, Table.names_bytes _⟩
    · rw [get?_declared, h]
      rfl
    · intro name
      exact Table.mem_names_ofList

/-! ### Objects as tables -/

/-- The entries of an object are read one by one. -/
theorem readTable_closed {β : Type} (read : Draft → Except SchemaFault β)
    (members : List (String × Draft)) : readTable read (.object members .closed) =
      (members.mapM fun m => (read m.2).map (Prod.mk m.1)).map Table.ofList := by
  -- the table so far has no influence on what is read
  have hfold (table : Table β) :
      members.foldlM (fun table m => return table.insert m.1 (← read m.2)) table =
        (members.mapM fun m => (read m.2).map (Prod.mk m.1)).map
          (List.foldl (fun t e => t.insert e.1 e.2) table) := by
    induction members generalizing table with
    | nil => rfl
    | cons m members ih =>
      rw [List.foldlM_cons, List.mapM_cons]
      cases read m.2 with
      | error e => rfl
      | ok value =>
        refine (ih (table.insert m.1 value)).trans ?_
        cases members.mapM fun m => (read m.2).map (Prod.mk m.1) <;> rfl
  have hread : readTable read (.object members .closed) =
      (members.foldlM (fun table m => return table.insert m.1 (← read m.2)) ∅ >>= pure) := rfl
  rw [hread, hfold, bind_pure]
  rfl

section Entries

variable {β γ : Type} {read : Draft → Except SchemaFault γ} {json : β → Json}
  {entries : List (String × β)}

theorem readTable_ofEntries : readTable read (Json.ofEntries json entries).draft =
    (entries.mapM fun e => (read (json e.2).draft).map (Prod.mk e.1)).map Table.ofList := by
  rw [Json.ofEntries, Json.draft, Json.memberDrafts_eq_map, readTable_closed, List.map_map,
    List.mapM_map]
  rfl

/-- Values are put under their names one after the other. -/
theorem readTable_eq_ok {values : List (String × γ)}
    (h : List.Forall₂ (fun e v => e.1 = v.1 ∧ read (json e.2).draft = .ok v.2) entries values) :
    readTable read (Json.ofEntries json entries).draft = .ok (Table.ofList values) := by
  rw [readTable_ofEntries, map_eq_ok]
  refine ⟨values, mapM_eq_ok.2 ?_, rfl⟩
  rw [← List.forall₂_eq_eq_eq, List.forall₂_map_left_iff, List.forall₂_map_right_iff]
  refine h.imp ?_
  rintro e v ⟨hname, hread⟩
  rw [hread, hname]
  rfl

theorem exists_of_readTable_eq_ok {table : Table γ}
    (h : readTable read (Json.ofEntries json entries).draft = .ok table) :
    ∀ e ∈ entries, ∃ v, read (json e.2).draft = .ok v := by
  rw [readTable_ofEntries, map_eq_ok] at h
  obtain ⟨values, hvalues, -⟩ := h
  intro e he
  have hmem := List.mem_map_of_mem (f := fun e => (read (json e.2).draft).map (Prod.mk e.1)) he
  rw [mapM_eq_ok.1 hvalues] at hmem
  obtain ⟨v, -, hv⟩ := List.mem_map.1 hmem
  obtain ⟨v', hv', -⟩ := map_eq_ok.1 hv.symm
  exact ⟨v', hv'⟩

/-- The first fault counts. -/
theorem readTable_eq_error_iff {fault : SchemaFault} :
    readTable read (Json.ofEntries json entries).draft = .error fault ↔
      ∃ front e back, entries = front ++ e :: back ∧
        (∀ e ∈ front, ∃ v, read (json e.2).draft = .ok v) ∧ read (json e.2).draft = .error fault := by
  have hok (e : String × β) : (∃ v, (read (json e.2).draft).map (Prod.mk e.1) = .ok v) ↔
      ∃ v, read (json e.2).draft = .ok v := by
    simp only [map_eq_ok]
    constructor
    · rintro ⟨_, v, hv, -⟩
      exact ⟨v, hv⟩
    · rintro ⟨v, hv⟩
      exact ⟨_, v, hv, rfl⟩
  rw [readTable_ofEntries, map_eq_error, mapM_eq_error]
  simp only [hok, map_eq_error]

end Entries

end Schema

/-! ### Reading -/

namespace SchemaOutline
open Schema

variable {outline : SchemaOutline} {text : String}

theorem depth_ofEntries_le {β : Type} {json : β → Json} {n : Nat} {entries : List (String × β)}
    (h : ∀ e ∈ entries, (json e.2).depth ≤ n) : (Json.ofEntries json entries).depth ≤ n + 1 := by
  rw [Json.ofEntries, Json.depth]
  apply Nat.succ_le_succ
  induction entries with
  | nil => exact Nat.zero_le n
  | cons e entries ih =>
    obtain ⟨he, hentries⟩ := List.forall_mem_cons.1 h
    exact Nat.max_le.2 ⟨he, ih hentries⟩

theorem depth_json_le (outline : SchemaOutline) : outline.json.depth ≤ 3 := by
  refine depth_ofEntries_le fun t _ => depth_ofEntries_le fun a _ => depth_ofEntries_le fun f _ => ?_
  rcases f with ⟨_, ⟨_ | _⟩ | ⟨_ | _⟩ | _ | _⟩ <;> exact Nat.le_refl 0

theorem ofText_eq (h : outline.json.IsSpelledBy text) :
    Schema.ofText text = ofDraft outline.json.draft := by
  unfold Schema.ofText
  rw [h.ofText (outline.depth_json_le.trans (by decide))]
  dsimp only
  cases ofDraft outline.json.draft <;> rfl

theorem readTable_of_declares {attributes : TypeOutline} {declarations : List (String × Attribute)}
    (hp : ∀ a ∈ attributes, (a.2.map (·.name)).Nodup)
    (h : List.Forall₂ (fun a b => a.1 = b.1 ∧ Declares a.2 b.2) attributes declarations) :
    readTable readAttribute (Json.ofEntries attributeJson attributes).draft =
      .ok (Table.ofList declarations) := by
  apply readTable_eq_ok
  refine ((List.forall₂_and_left _ _).2 ⟨hp, h⟩).imp ?_
  rintro a b ⟨hnames, hname, hdeclares⟩
  exact ⟨hname, (readAttribute_eq_ok_iff hnames).2 hdeclares⟩

theorem ofDraft_of_spells {declarations : SchemaDeclarations} (hp : outline.IsProper)
    (h : outline.Spells declarations) :
    ofDraft outline.json.draft = .ok (declared declarations) := by
  apply readTable_eq_ok
  rw [List.forall₂_map_right_iff]
  refine ((List.forall₂_and_left _ _).2 ⟨hp, h⟩).imp ?_
  rintro t d ⟨hnames, hname, hdeclares⟩
  exact ⟨hname, readTable_of_declares hnames hdeclares⟩

/-- A document with a faulty attribute is refused for what is wrong with the first one. -/
theorem exists_of_isFaulty (hp : outline.IsProper)
    (h : ∃ t ∈ outline, ∃ a ∈ t.2, ∃ fault, IsFaulty a.2 fault) :
    ∃ front a back fault, outline.flatMap (·.2) = front ++ a :: back ∧
      (∀ b ∈ front, ∃ x, Declares b.2 x) ∧ IsFaulty a.2 fault ∧
      ofDraft outline.json.draft = .error fault := by
  cases hd : ofDraft outline.json.draft with
  | ok schema =>
    -- then every attribute was read, the faulty one as well
    obtain ⟨t, ht, a, ha, fault, hfault⟩ := h
    obtain ⟨entity, hentity⟩ := exists_of_readTable_eq_ok hd t ht
    obtain ⟨x, hx⟩ := exists_of_readTable_eq_ok hentity a ha
    rw [(readAttribute_eq_error_iff (hp t ht a ha)).2 hfault] at hx
    cases hx
  | error fault =>
    obtain ⟨front, t, back, rfl, hfront, ht⟩ := readTable_eq_error_iff.1 hd
    obtain ⟨before, a, after, hattributes, hbefore, ha⟩ := readTable_eq_error_iff.1 ht
    have hfirst := hp t (by simp)
    rw [hattributes] at hfirst
    refine ⟨front.flatMap (·.2) ++ before, a, after ++ back.flatMap (·.2), fault, ?_, ?_, ?_, rfl⟩
    · simp only [List.flatMap_append, List.flatMap_cons, hattributes, List.append_assoc,
        List.cons_append]
    · intro b hb
      rcases List.mem_append.1 hb with hb | hb
      · obtain ⟨s, hs, hbs⟩ := List.mem_flatMap.1 hb
        obtain ⟨entity, hentity⟩ := hfront s hs
        obtain ⟨x, hx⟩ := exists_of_readTable_eq_ok hentity b hbs
        exact ⟨x, (readAttribute_eq_ok_iff (hp s (by simp [hs]) b hbs)).1 hx⟩
      · obtain ⟨x, hx⟩ := hbefore b hb
        exact ⟨x, (readAttribute_eq_ok_iff (hfirst b (by simp [hb]))).1 hx⟩
    · exact (readAttribute_eq_error_iff (hfirst a (by simp))).1 ha

/-- A document that declares types and their attributes in this order is read as the schema that the
declarations build up, however its text spells it; of types and attributes of one name the last one counts,
and nothing of the others. A document with an attribute that is no scalar and no relation, or both, or a
collection of scalars, is refused for the first of these. -/
theorem reads_as_declared (hp : outline.IsProper) (h : outline.json.IsSpelledBy text) :
    (∀ declarations, outline.Spells declarations →
      Schema.ofText text = .ok (declared declarations) ∧
        (declared declarations).Answers declarations) ∧
    ((∃ t ∈ outline, ∃ a ∈ t.2, ∃ fault, IsFaulty a.2 fault) →
      ∃ front a back fault, outline.flatMap (·.2) = front ++ a :: back ∧
        (∀ b ∈ front, ∃ x, Declares b.2 x) ∧ IsFaulty a.2 fault ∧
        Schema.ofText text = .error fault) := by
  rw [ofText_eq h]
  constructor
  · intro declarations hd
    exact ⟨ofDraft_of_spells hp hd, answers_declared declarations⟩
  · exact exists_of_isFaulty hp

/-- A type with two attributes of one name. -/
def repeated : SchemaOutline :=
  [("T", [("a", [.type (some .date)]), ("a", [.relation (some "𝛼"), .type none])])]

/-- A text of it, with blanks and escapes. -/
def repeatedText : String :=
  " \x7b \"T\" : \x7b \"a\" : \x7b \"type\" : \"date\" \x7d , \"\\u0061\" : " ++
    "\x7b \"relation\" : \"\\ud835\\uDEFC\" , \"type\" : null \x7d \x7d \x7d"

open JsonToken in
theorem isSpelledBy_repeated : repeated.json.IsSpelledBy repeatedText := by
  have hletter : WritesChar ['\\', 'u', '0', '0', '6', '1'] 'a' := by
    have hunit : WritesUnit ['0', '0', '6', '1'] 'a'.toNat :=
      .intro (i := 0) (j := 0) (k := 6) (l := 1) (.inl rfl) (.inl rfl) (.inl rfl) (.inl rfl)
    exact .unit hunit
  have hpair : WritesChar ['\\', 'u', 'd', '8', '3', '5', '\\', 'u', 'D', 'E', 'F', 'C'] '𝛼' := by
    have hhigh : WritesUnit ['d', '8', '3', '5'] (0xD800 + 0xD6FC / 0x400) :=
      .intro (i := 13) (j := 8) (k := 3) (l := 5) (.inl rfl) (.inl rfl) (.inl rfl) (.inl rfl)
    have hlow : WritesUnit ['D', 'E', 'F', 'C'] (0xDC00 + 0xD6FC % 0x400) :=
      .intro (i := 13) (j := 14) (k := 15) (l := 12) (.inr rfl) (.inr rfl) (.inr rfl) (.inr rfl)
    exact .pair (n := 0xD6FC) (by decide) hhigh hlow
  have hwrites := Spelling.writesTokens [
    .mark '\x7b' .openBrace (by decide), .quoted "T", .mark ':' .colon (by decide),
    .mark '\x7b' .openBrace (by decide), .quoted "a", .mark ':' .colon (by decide),
    .mark '\x7b' .openBrace (by decide), .quoted "type", .mark ':' .colon (by decide),
    .quoted "date", .mark '\x7d' .closeBrace (by decide), .mark ',' .comma (by decide),
    .single hletter, .mark ':' .colon (by decide),
    .mark '\x7b' .openBrace (by decide), .quoted "relation", .mark ':' .colon (by decide),
    .single hpair, .mark ',' .comma (by decide), .quoted "type", .mark ':' .colon (by decide),
    ⟨['n', 'u', 'l', 'l'], .null, .word (by decide)⟩, .mark '\x7d' .closeBrace (by decide),
    .mark '\x7d' .closeBrace (by decide), .mark '\x7d' .closeBrace (by decide)]
  exact hwrites

theorem reads_as_declared_repeated : ∃ schema entity,
    Schema.ofText repeatedText = .ok schema ∧ schema.get? "T" = some entity ∧
      entity.get? "a" = some (.relation "𝛼" false) ∧ entity.names = ["a"] := by
  have hproper : repeated.IsProper := by
    unfold IsProper
    decide
  have hfirst : Declares [.type (some .date)] (.scalar .date) :=
    .scalar List.mem_cons_self (by simp) (by simp)
  have hsecond : Declares [.relation (some "𝛼"), .type none] (.relation "𝛼" false) :=
    .relation List.mem_cons_self (by simp)
  have hspells : repeated.Spells [("T", [("a", .scalar .date), ("a", .relation "𝛼" false)])] :=
    .cons ⟨rfl, .cons ⟨rfl, hfirst⟩ (.cons ⟨rfl, hsecond⟩ .nil)⟩ .nil
  obtain ⟨htext, -⟩ := (reads_as_declared hproper isSpelledBy_repeated).1 _ hspells
  exact ⟨_, _, htext, rfl, rfl, rfl⟩

/-! ### Texts -/

open JsonToken in
/-- The tokens of an object have texts if those of its values do. -/
theorem range_ofEntries {β : Type} {value : β → Json} {entries : List (String × β)}
    (h : ∀ e ∈ entries, ∀ t ∈ (value e.2).tokens, t ∈ Set.range Spelling.token) :
    ∀ t ∈ (Json.ofEntries value entries).tokens, t ∈ Set.range Spelling.token := by
  have hmark (c : Char) (t : JsonToken) (ht : (c, t) ∈ marks) : t ∈ Set.range Spelling.token :=
    ⟨.mark c t ht, rfl⟩
  intro t ht
  rw [Json.ofEntries, Json.tokens, List.cons_append, List.mem_cons, List.mem_append,
    List.mem_singleton] at ht
  rcases ht with rfl | ht | rfl
  · exact hmark '\x7b' _ (by decide)
  · rcases Json.mem_intercalate ht with ht | ⟨ts, hts, ht⟩
    · rw [List.mem_singleton.1 ht]
      exact hmark ',' _ (by decide)
    · rw [Json.memberTokens_eq_map, List.map_map] at hts
      obtain ⟨e, he, rfl⟩ := List.mem_map.1 hts
      rw [Function.comp_apply, List.mem_cons, List.mem_cons] at ht
      rcases ht with rfl | rfl | ht
      · exact ⟨.quoted e.1, rfl⟩
      · exact hmark ':' _ (by decide)
      · exact h e he t ht
  · exact hmark '\x7d' _ (by decide)

open JsonToken in
theorem range_field (field : AttributeField) :
    ∀ t ∈ field.json.tokens, t ∈ Set.range Spelling.token := by
  have hnull : .null ∈ Set.range Spelling.token := ⟨⟨_, _, .word List.mem_cons_self⟩, rfl⟩
  have hflag (flag : Bool) : .boolean flag ∈ Set.range Spelling.token := by
    cases flag with
    | true => exact ⟨⟨['t', 'r', 'u', 'e'], _, .word (by decide)⟩, rfl⟩
    | false => exact ⟨⟨['f', 'a', 'l', 's', 'e'], _, .word (by decide)⟩, rfl⟩
  intro t ht
  rcases field with ⟨_ | type⟩ | ⟨_ | target⟩ | flag | flag
  all_goals
    rw [AttributeField.json, Json.tokens, List.mem_singleton] at ht
    rw [ht]
  · exact hnull
  · exact ⟨.quoted type.name, rfl⟩
  · exact hnull
  · exact ⟨.quoted target, rfl⟩
  · exact hflag flag
  · exact hflag flag

/-- The document that says in this order what the declarations do. -/
def ofDeclarations (declarations : SchemaDeclarations) : SchemaOutline :=
  declarations.map (Prod.map id (List.map (Prod.map id Attribute.fields)))

theorem isProper_ofDeclarations (declarations : SchemaDeclarations) :
    (ofDeclarations declarations).IsProper := by
  intro t ht a ha
  obtain ⟨d, -, rfl⟩ := List.mem_map.1 ht
  obtain ⟨b, -, rfl⟩ := List.mem_map.1 ha
  exact b.2.nodup_fields

theorem spells_ofDeclarations (declarations : SchemaDeclarations) :
    (ofDeclarations declarations).Spells declarations := by
  refine List.forall₂_map_left_iff.2 (List.forall₂_same.2 fun d _ => ⟨rfl, ?_⟩)
  exact List.forall₂_map_left_iff.2 (List.forall₂_same.2 fun a _ => ⟨rfl, a.2.declares_fields⟩)

/-- Each document has a text. -/
theorem exists_isSpelledBy (outline : SchemaOutline) : ∃ text, outline.json.IsSpelledBy text := by
  have htokens : ∀ t ∈ outline.json.tokens, t ∈ Set.range JsonToken.Spelling.token := by
    exact range_ofEntries fun t _ => range_ofEntries fun a _ => range_ofEntries fun f _ =>
      range_field f.2
  obtain ⟨text, htext⟩ := JsonToken.exists_writesTokens htokens
  refine ⟨String.ofList text, ?_⟩
  rwa [Json.IsSpelledBy, String.toList_ofList]

/-- Each schema that can be built can be read from a text. -/
theorem exists_ofText_eq (declarations : SchemaDeclarations) :
    ∃ text, Schema.ofText text = .ok (declared declarations) := by
  obtain ⟨text, htext⟩ := exists_isSpelledBy (ofDeclarations declarations)
  refine ⟨text, ?_⟩
  rw [ofText_eq htext]
  exact ofDraft_of_spells (isProper_ofDeclarations declarations) (spells_ofDeclarations declarations)

end SchemaOutline
end FilterQuery
