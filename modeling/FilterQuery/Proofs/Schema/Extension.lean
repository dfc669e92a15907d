import FilterQuery.Proofs.Predicate.Rendering
import FilterQuery.Proofs.Resolution
import FilterQuery.Record

/-!
# Schemas that grow

Compiling looks up the types and attributes that selectors lead past, and nothing else: what is found in a
schema is found alike in one that declares more.

* `Schema.IsPartOf` : all that one schema declares is declared in another, and `isPartOf_insert`, a type
  that is new or has new attributes;
* `Schema.Walk.mono`, `resolve_mono` : ways through the schema stay ways;
* `Placed.compile_mono` : comparisons compile to the same conditions;
* `Predicate.ofText_mono` : texts to the same predicates.
-/

set_option autoImplicit false

namespace FilterQuery

/-- Each type of the schema is declared in the larger one too, with all its attributes as they are. -/
def Schema.IsPartOf (schema larger : Schema) : Prop :=
  ∀ type entity, schema.get? type = some entity → ∃ more, larger.get? type = some more ∧
    ∀ name a, entity.get? name = some a → more.get? name = some a

variable {schema larger : Schema} {root : String}

/-! ### Schemas -/

namespace Schema

theorem IsPartOf.trans {largest : Schema} (h : schema.IsPartOf larger)
    (h' : larger.IsPartOf largest) : schema.IsPartOf largest := by
  intro type entity hentity
  obtain ⟨more, hmore, hnames⟩ := h type entity hentity
  obtain ⟨most, hmost, hnames'⟩ := h' type more hmore
  exact ⟨most, hmost, fun name a hname => hnames' name a (hnames name a hname)⟩

/-- Declaring a type that is new, or one with at least the attributes that it had, makes a schema grow. -/
theorem isPartOf_insert {type : String} {more : EntityType}
    (h : ∀ entity, schema.get? type = some entity →
      ∀ name a, entity.get? name = some a → more.get? name = some a) :
    schema.IsPartOf (schema.insert type more) := by
  intro other entity hentity
  rw [Table.get?_insert]
  by_cases hother : other = type
  · subst hother
    exact ⟨more, if_pos rfl, h entity hentity⟩
  · exact ⟨entity, (if_neg hother).trans hentity, fun _ _ hname => hname⟩

theorem IsPartOf.exists_attribute (h : schema.IsPartOf larger) {type name : String}
    {entity : EntityType} {a : Attribute} (hentity : schema.get? type = some entity)
    (hname : entity.get? name = some a) :
    ∃ more, larger.get? type = some more ∧ more.get? name = some a := by
  obtain ⟨more, hmore, hnames⟩ := h type entity hentity
  exact ⟨more, hmore, hnames name a hname⟩

/-- A walk leads where it did. -/
theorem Walk.mono (h : schema.IsPartOf larger) {steps : List ResolutionStep} {type : String}
    (hwalk : schema.Walk root steps type) : larger.Walk root steps type := by
  induction hwalk with
  | here => exact .here
  | step hentity hfirst _ ih =>
    obtain ⟨more, hmore, hfirst'⟩ := h.exists_attribute hentity hfirst
    exact .step hmore hfirst' ih

end Schema

/-- A selector that leads to a scalar leads to it by the same steps, whatever else is declared: also if a
type that was only the target of relations is. -/
theorem resolve_mono (h : schema.IsPartOf larger) {selector : String} {found : Resolution}
    (hfound : resolve schema root selector = .ok found) :
    resolve larger root selector = .ok found := by
  rw [resolve_eq_iff_leadsTo] at hfound ⊢
  cases hfound with
  | scalar hsegments hwalk hentity hname =>
    obtain ⟨more, hmore, hname'⟩ := h.exists_attribute hentity hname
    exact .scalar hsegments (hwalk.mono h) hmore hname'

/-! ### Queries -/

section

variable [PatternSize] {options : Options}

theorem Placed.compile_mono (h : schema.IsPartOf larger) {p : Placed} {c : Condition}
    (hc : p.compile schema root options = .ok c) : p.compile larger root options = .ok c := by
  rw [compile_eq_ok_iff] at hc ⊢
  obtain ⟨found, hfound, hcondition⟩ := hc
  exact ⟨found, resolve_mono h hfound, hcondition⟩

theorem Query.compile_mono (h : schema.IsPartOf larger) {q : Query} {p : Predicate}
    (hp : q.compile schema root options = .ok p) : q.compile larger root options = .ok p := by
  unfold compile at hp ⊢
  rw [Formula.traverse_eq_ok_iff] at hp ⊢
  exact Formula.map_eq_map_of_atoms hp fun a _ c _ hc => Placed.compile_mono h hc

/-- A text that gives a predicate gives an equal one when the schema grows, and so the same evaluations on
all records. -/
theorem Predicate.ofText_mono (h : schema.IsPartOf larger) {text : String} {p : Predicate}
    (hp : ofText text schema root options = .ok p) :
    (∃ q, ofText text larger root options = .ok q ∧ q = p ∧ q.agrees p) ∧
    ∀ (ρ : Type) [Record ρ] (record : ρ), (ofText text larger root options).map (evaluate · record) =
      (ofText text schema root options).map (evaluate · record) := by
  have hlarger : ofText text larger root options = .ok p := by
    obtain ⟨q, hq, hcompile⟩ := ofText_eq_ok.1 hp
    rw [← Formula.traverse_eq_ok_iff] at hcompile
    have hcompile' := Query.compile_mono h hcompile
    rw [ofText_of_query hq, hcompile']
    rfl
  refine ⟨⟨p, hlarger, rfl, agrees_self hp⟩, fun ρ _ record => ?_⟩
  rw [hlarger, hp]

end

/-- The schema with the type that it lacked, and one attribute more. -/
def Schema.cyclicGrown : Schema :=
  (Schema.cyclic.insert "V" (Table.empty.insert "name" (.scalar .string))).insert "T"
    (((Table.empty.insert "kids" (.relation "U" true)).insert "name" (.scalar .string)).insert "age"
      (.scalar .integer))

theorem Schema.cyclic_isPartOf_cyclicGrown : Schema.cyclic.IsPartOf .cyclicGrown := by
  have hnew : Schema.cyclic.IsPartOf
      (Schema.cyclic.insert "V" (Table.empty.insert "name" (.scalar .string))) := by
    apply isPartOf_insert
    intro entity hentity
    cases hentity
  apply hnew.trans
  apply isPartOf_insert
  rintro entity ⟨⟩ name a hname
  rw [Table.get?_insert]
  split
  · next hage =>
    subst hage
    cases hname
  · exact hname

/-- A type that a relation leads to is declared now, and round the cycle nothing changes. -/
theorem Predicate.ofText_mono_cyclic : ∃ p, Schema.cyclic.IsPartOf .cyclicGrown ∧
    ofText "kids.parent.name==x" .cyclic "T" {} = .ok p ∧
    (ofText "kids.gone.name==x" .cyclic "T" {}).isOk = false ∧
    (ofText "kids.gone.name==x" .cyclicGrown "T" {}).isOk ∧
    ∃ q, ofText "kids.parent.name==x" .cyclicGrown "T" {} = .ok q ∧ q = p ∧ q.agrees p := by
  have hok : (ofText "kids.parent.name==x" .cyclic "T" {}).isOk := by decide +kernel
  cases hp : ofText "kids.parent.name==x" .cyclic "T" {} with
  | error e =>
    rw [hp] at hok
    cases hok
  | ok p =>
    exact ⟨p, Schema.cyclic_isPartOf_cyclicGrown, rfl, by decide +kernel, by decide +kernel,
      (ofText_mono Schema.cyclic_isPartOf_cyclicGrown hp).1⟩

end FilterQuery
