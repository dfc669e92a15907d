import FilterQuery.Proofs.Formula
import FilterQuery.Record
import Mathlib.Data.List.Forall2
import Mathlib.Logic.Relation

/-!
# What predicates mean

Records are searched relation by relation, all records that one relation leads to before the next. What
is found so is the end of some chain of records.

* `Leads` : chains of records, each related to the next one;
* `Condition.IsMetBy`, `Formula.Holds` : what it is for a condition to hold at the end of a chain, and
  for a formula;
* `Simulates` : records that cannot be told apart by what holds of the first one;
* `Json.Wraps` : an object in an array of its own, in place of the object alone;
* `Predicate.evaluate_iff` : evaluation finds out what predicates mean, and
  `Predicate.evaluates_meaning`, with what this says of JSON values.
-/

set_option autoImplicit false

namespace FilterQuery

/-! ### Formulas -/

namespace Formula

universe u
variable {α : Type u} {P Q : α → Prop}

/-- A formula of conditions that hold where `P` says so: "and" needs all of its parts, "or" one. -/
inductive Holds (P : α → Prop) : Formula α → Prop
  | atom {a : α} : P a → Holds P (.atom a)
  | and {parts : List (Formula α)} : (∀ part ∈ parts, Holds P part) → Holds P (.group .and parts)
  | or {parts : List (Formula α)} {part : Formula α} : part ∈ parts → Holds P part →
      Holds P (.group .or parts)

/-- A formula that holds does so where more holds of its own atoms. -/
theorem Holds.imp {f : Formula α} (hf : Holds P f) (h : ∀ a ∈ f.atoms, P a → Q a) : Holds Q f := by
  induction hf with
  | atom ha => exact .atom (h _ List.mem_cons_self ha)
  | and _ ih => exact .and fun part hp => ih part hp fun a ha => h a (mem_atoms_group hp ha)
  | or hp _ ih => exact .or hp (ih fun a ha => h a (mem_atoms_group hp ha))

theorem holds_map {γ : Type*} {g : γ → α} {f : Formula γ} :
    Holds P (f.map g) ↔ Holds (fun c => P (g c)) f := by
  induction f using Formula.induction with
  | atom c =>
    rw [map_atom]
    constructor <;> rintro ⟨hc⟩ <;> exact .atom hc
  | group c parts ih =>
    rw [map_group]
    cases c with
    | and =>
      constructor
      · rintro (_ | hall)
        exact .and fun part hp => (ih part hp).1 (hall _ (List.mem_map_of_mem hp))
      · rintro (_ | hall)
        refine .and fun _ hp => ?_
        obtain ⟨part, hmem, rfl⟩ := List.mem_map.1 hp
        exact (ih part hmem).2 (hall part hmem)
    | or =>
      constructor
      · rintro (_ | _ | ⟨hp, hpart⟩)
        obtain ⟨part, hmem, rfl⟩ := List.mem_map.1 hp
        exact .or hmem ((ih part hmem).1 hpart)
      · rintro (_ | _ | ⟨hp, hpart⟩)
        exact .or (List.mem_map_of_mem hp) ((ih _ hp).2 hpart)

/-- What a traversal gives holds if its results for the atoms do. -/
theorem holds_traverse {γ : Type*} {ε : Type} {g : γ → Except ε α} {F : Formula γ} {f : Formula α}
    (h : F.traverse g = .ok f) : Holds P f ↔ Holds (fun c => ∃ a, g c = .ok a ∧ P a) F := by
  have hresults : Holds P f ↔ Holds (fun r => ∃ a, r = Except.ok (ε := ε) a ∧ P a) (f.map .ok) := by
    rw [holds_map]
    simp
  rw [hresults, ← traverse_eq_ok_iff.1 h, holds_map]

theorem holds_iff_holds {test : α → Bool} (h : ∀ a, test a ↔ P a) (f : Formula α) :
    (f.evaluate test).holds ↔ Holds P f := by
  induction f using Formula.induction with
  | atom a =>
    constructor
    · exact fun ha => .atom ((h a).1 ha)
    · rintro ⟨ha⟩
      exact (h a).2 ha
  | group c parts ih =>
    cases c with
    | and =>
      rw [evaluate, holds_evaluateAll, List.all_eq_true]
      constructor
      · exact fun hall => .and fun part hp => (ih part hp).1 (hall part hp)
      · rintro (_ | hall)
        exact fun part hp => (ih part hp).2 (hall part hp)
    | or =>
      rw [evaluate, holds_evaluateAny, List.any_eq_true]
      constructor
      · rintro ⟨part, hp, hpart⟩
        exact .or hp ((ih part hp).1 hpart)
      · rintro (_ | _ | ⟨hp, hpart⟩)
        exact ⟨_, hp, (ih _ hp).2 hpart⟩

end Formula

/-! ### Chains -/

section Chains

variable {ρ : Type} [Record ρ]

/-- A chain of records, each among those that the next relation leads to from the one before. -/
inductive Leads : ρ → List String → ρ → Prop
  | here {x : ρ} : Leads x [] x
  | step {x y z : ρ} {relation : String} {relations : List String} :
      y ∈ Record.related x relation → Leads y relations z → Leads x (relation :: relations) z

/-- The records that are found from some records are at the ends of the chains from one of them. -/
theorem mem_frontier_iff {relations : List String} {frontier : List ρ} {z : ρ} :
    z ∈ relations.foldl (fun frontier relation => frontier.flatMap (Record.related · relation))
        frontier ↔ ∃ x ∈ frontier, Leads x relations z := by
  induction relations generalizing frontier with
  | nil =>
    constructor
    · exact fun hz => ⟨z, hz, .here⟩
    · rintro ⟨_, hx, ⟨⟩⟩
      exact hx
  | cons relation relations ih =>
    rw [List.foldl_cons, ih]
    constructor
    · rintro ⟨y, hy, hz⟩
      obtain ⟨x, hx, hxy⟩ := List.mem_flatMap.1 hy
      exact ⟨x, hx, .step hxy hz⟩
    · rintro ⟨x, hx, hxy | ⟨hxy, hz⟩⟩
      exact ⟨_, List.mem_flatMap.2 ⟨x, hx, hxy⟩, hz⟩

theorem mem_reachable_iff {record z : ρ} {relations : List String} :
    z ∈ reachable record relations ↔ Leads record relations z := by
  rw [reachable, mem_frontier_iff]
  simp

/-- The attribute of a record at the end of a chain satisfies the condition. -/
def Condition.IsMetBy (c : Condition) (record : ρ) : Prop :=
  ∃ x, Leads record c.path.relations x ∧ c.holdsFor (Record.scalar x c.path.attributeName)

theorem Condition.holdsOn_iff (c : Condition) (record : ρ) : c.holdsOn record ↔ c.IsMetBy record := by
  rw [holdsOn, List.any_eq_true]
  exact exists_congr fun x => and_congr_left fun _ => mem_reachable_iff

/-- What a predicate says of a record. -/
def Predicate.Means (p : Predicate) (record : ρ) : Prop :=
  Formula.Holds (Condition.IsMetBy · record) p

theorem Predicate.evaluate_iff (p : Predicate) (record : ρ) :
    (evaluate p record).holds ↔ p.Means record :=
  Formula.holds_iff_holds (fun c => c.holdsOn_iff record) p

/-! ### Records that are alike -/

/-- Where `R` leads from a record, the scalars are the same, and to each related record `R` leads from
one that is related alike. -/
structure Simulates (R : ρ → ρ → Prop) : Prop where
  scalar : ∀ x y, R x y → ∀ name, Record.scalar x name = Record.scalar y name
  related : ∀ x y, R x y → ∀ name, ∀ x' ∈ Record.related x name,
    ∃ y' ∈ Record.related y name, R x' y'

variable {R : ρ → ρ → Prop} {x y : ρ}

theorem Leads.simulate (h : Simulates R) {relations : List String} {x' : ρ}
    (hx : Leads x relations x') (hr : R x y) : ∃ y', Leads y relations y' ∧ R x' y' := by
  induction hx generalizing y with
  | here => exact ⟨y, .here, hr⟩
  | step hmem _ ih =>
    obtain ⟨mid, hmid, hr'⟩ := h.related _ _ hr _ _ hmem
    obtain ⟨y', hy', hr''⟩ := ih hr'
    exact ⟨y', .step hmid hy', hr''⟩

theorem Condition.IsMetBy.simulate {c : Condition} (h : Simulates R) (hr : R x y)
    (hx : c.IsMetBy x) : c.IsMetBy y := by
  obtain ⟨x', hx', hc⟩ := hx
  obtain ⟨y', hy', hr'⟩ := hx'.simulate h hr
  rw [h.scalar x' y' hr'] at hc
  exact ⟨y', hy', hc⟩

theorem Predicate.evaluate_eq_of_simulates (h : Simulates R) (h' : Simulates (flip R)) (hr : R x y)
    (p : Predicate) : evaluate p x = evaluate p y := by
  have hconditions (c : Condition) : c.holdsOn x = c.holdsOn y := by
    rw [Bool.eq_iff_iff, c.holdsOn_iff, c.holdsOn_iff]
    exact ⟨fun hx => hx.simulate h hr, fun hy => hy.simulate h' hr⟩
  unfold evaluate
  simp only [hconditions]

end Chains

/-! ### Objects in arrays of their own -/

namespace Json

theorem mem_related_iff {record x : Json} {name : String} : x ∈ Record.related record name ↔
    (∃ items, record.get? name = some (.array items) ∧ x ∈ items) ∨
      ∃ members, record.get? name = some (.object members) ∧ x = .object members := by
  change x ∈ related record name ↔ _
  unfold related
  split <;> simp_all

/-- One member that is an object, anywhere in a value, is put into an array of its own. -/
inductive Wraps : Json → Json → Prop
  | here {before after members : List (String × Json)} {name : String} :
      Wraps (.object (before ++ (name, .object members) :: after))
        (.object (before ++ (name, .array [.object members]) :: after))
  | member {before after : List (String × Json)} {name : String} {v w : Json} : Wraps v w →
      Wraps (.object (before ++ (name, v) :: after)) (.object (before ++ (name, w) :: after))
  | item {before after : List Json} {v w : Json} : Wraps v w →
      Wraps (.array (before ++ v :: after)) (.array (before ++ w :: after))

theorem lookup_between (key name : String) (v : Json) (before after : List (String × Json)) :
    (before ++ (name, v) :: after).lookup key =
      (before.lookup key).or (if key = name then some v else after.lookup key) := by
  rw [List.lookup_append, lookup_entry]

/-- What stands at a name in either value: the same, the object that is put into an array, or values
that differ in the same way. -/
theorem Wraps.get? {v w : Json} (h : Wraps v w) (key : String) :
    v.get? key = w.get? key ∨
      (∃ members, v.get? key = some (.object members) ∧
        w.get? key = some (.array [.object members])) ∨
      ∃ v' w', v.get? key = some v' ∧ w.get? key = some w' ∧ Wraps v' w' := by
  cases h with
  | @here before after members name =>
    simp only [Json.get?, lookup_between]
    cases before.lookup key <;> by_cases hk : key = name <;> simp [hk]
  | @member before after name v w hvw =>
    simp only [Json.get?, lookup_between]
    cases before.lookup key <;> by_cases hk : key = name <;> simp [hk, hvw]
  | item => exact .inl rfl

theorem Wraps.scalar {v w : Json} (h : Wraps v w) (name : String) : v.scalar name = w.scalar name := by
  unfold Json.scalar
  rcases h.get? name with heq | ⟨members, hv, hw⟩ | ⟨v', w', hv, hw, hvw⟩
  · rw [heq]
  · rw [hv, hw]
  · rw [hv, hw]
    cases hvw <;> rfl

theorem Wraps.related {v w : Json} (h : Wraps v w) (name : String) :
    List.Forall₂ (Relation.ReflGen Wraps) (v.related name) (w.related name) := by
  unfold Json.related
  rcases h.get? name with heq | ⟨members, hv, hw⟩ | ⟨v', w', hv, hw, hvw⟩
  · rw [heq]
    exact List.forall₂_refl _
  · rw [hv, hw]
    exact List.forall₂_refl _
  · rw [hv, hw]
    cases hvw with
    | here => exact .cons (.single .here) .nil
    | member hvw => exact .cons (.single (.member hvw)) .nil
    | @item before after _ _ hvw =>
      exact List.rel_append (List.forall₂_refl before)
        (.cons (.single hvw) (List.forall₂_refl after))

theorem simulates_of_forall₂ {R : Json → Json → Prop}
    (hs : ∀ v w, R v w → ∀ name, v.scalar name = w.scalar name)
    (hr : ∀ v w, R v w → ∀ name, List.Forall₂ R (v.related name) (w.related name)) :
    Simulates R ∧ Simulates (flip R) := by
  refine ⟨⟨hs, ?_⟩, ⟨fun v w h name => (hs w v h name).symm, ?_⟩⟩
  · exact fun v w h name v' hv' => exists_of_mem_forall₂ (hr v w h name) hv'
  · exact fun v w h name v' hv' => exists_of_mem_forall₂ (hr w v h name).flip hv'

theorem simulates_wraps :
    Simulates (Relation.ReflGen Wraps) ∧ Simulates (flip (Relation.ReflGen Wraps)) := by
  apply simulates_of_forall₂
  · rintro v w (_ | h) name
    · rfl
    · exact h.scalar name
  · rintro v w (_ | h) name
    · exact List.forall₂_refl _
    · exact h.related name

end Json

/-- A predicate holds on a record exactly if it means so, whatever records are: a condition if some
chain of records along its relations ends at one with an attribute that satisfies it. Where no chain
goes to the end, no condition holds, be it negated or a test for null. The chains of JSON values take
all items of an array and an object as it is, so that it makes no difference whether an object stands
alone or in an array of its own. -/
theorem Predicate.evaluates_meaning :
    (∀ (ρ : Type) [Record ρ] (p : Predicate) (record : ρ),
      (evaluate p record).holds ↔ p.Means record) ∧
    (∀ (ρ : Type) [Record ρ] (c : Condition) (record : ρ),
      (∀ x, ¬ Leads record c.path.relations x) → (evaluate (.atom c) record).holds = false) ∧
    (∀ (record x : Json) (name : String), x ∈ Record.related record name ↔
      (∃ items, record.get? name = some (.array items) ∧ x ∈ items) ∨
        ∃ members, record.get? name = some (.object members) ∧ x = .object members) ∧
    ∀ (p : Predicate) (v w : Json), v.Wraps w → evaluate p v = evaluate p w := by
  refine ⟨fun ρ _ => evaluate_iff, ?_, fun record x name => Json.mem_related_iff, ?_⟩
  · intro ρ _ c record hnone
    rw [← Bool.not_eq_true, evaluate_iff]
    rintro ⟨x, hx, -⟩
    exact hnone x hx
  · intro p v w h
    exact evaluate_eq_of_simulates Json.simulates_wraps.1 Json.simulates_wraps.2 (.single h) p

/-- A test of an attribute of the children. -/
def Condition.ofKids : Condition := ⟨.parse "kids.a", .equal, [.integer 1], .integer, false, none⟩

/-- The members of a child. -/
def Json.kid : List (String × Json) := [("a", .number (.integer 1))]

theorem Predicate.evaluates_meaning_wrapped :
    (∃ (p : Predicate) (v w : Json), v.Wraps w ∧ evaluate p v = evaluate p w ∧
      (evaluate p w).holds ∧ p.Means w) ∧
    ∃ (c : Condition) (record : Json), (∀ x, ¬ Leads record c.path.relations x) ∧
      (evaluate (.atom c) record).holds = false := by
  constructor
  · have hwraps : Json.Wraps (.object [("kids", .object Json.kid)])
        (.object [("kids", .array [.object Json.kid])]) := @Json.Wraps.here [] [] Json.kid "kids"
    have hholds : (evaluate (.atom .ofKids)
        (Json.object [("kids", .array [.object Json.kid])])).holds := by
      decide +kernel
    have hmeans := (evaluates_meaning.1 Json (.atom .ofKids) _).1 hholds
    exact ⟨_, _, _, hwraps, evaluates_meaning.2.2.2 _ _ _ hwraps, hholds, hmeans⟩
  · have hnone (x : Json) : ¬ Leads (.object []) Condition.ofKids.path.relations x := by
      have hrelations : Condition.ofKids.path.relations = ["kids"] := by
        decide +kernel
      rw [hrelations]
      intro h
      cases h with
      | step hkid _ => cases hkid
    exact ⟨_, _, hnone, evaluates_meaning.2.1 Json .ofKids _ hnone⟩

end FilterQuery
