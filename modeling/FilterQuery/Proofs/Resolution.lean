import FilterQuery.Proofs.Basic
import FilterQuery.Proofs.Table
import FilterQuery.Resolution

/-!
# The way that a selector leads

The segments of a selector are a walk through the graph of types and relations that a schema declares,
which may have cycles and relations that lead nowhere.

* `Schema.Walk` : steps along relations from one type to another;
* `Schema.LeadsTo` : what the segments of a selector come to, a scalar or the first place where the walk
  along them breaks;
* `resolve_eq_iff_leadsTo` : this is what resolving reports, `resolve_relation`, that it goes on from the
  target of the first relation, and `resolve_walks`, both of them together;
* `relations_of_resolve` : the relations that are followed are the segments of the selector but the
  last;
* `segment_of_resolve` : the segment that leads nowhere.
-/

set_option autoImplicit false

namespace FilterQuery

variable {schema : Schema}

/-! ### Walks -/

/-- The steps lead from the type `root` to the type `type`: each is along a relation of a declared type,
and its target is the type in which the next relation is looked up. -/
inductive Schema.Walk (schema : Schema) : (root : String) → List ResolutionStep →
    (type : String) → Prop
  | here {type : String} : Walk schema type [] type
  | step {root type : String} {entity : EntityType} {caseInsensitive : Bool} {first : ResolutionStep}
      {steps : List ResolutionStep} : schema.get? root = some entity →
      entity.get? first.relation =
        some ⟨.relation first.target first.collection, caseInsensitive⟩ →
      Walk schema first.target steps type → Walk schema root (first :: steps) type

/-- What is wrong with a segment, from what its type has under this name and the segments `rest` that
follow it. -/
inductive SegmentFault.IsOf : SegmentFault → Option Attribute → (rest : List String) → Prop
  | missing {rest : List String} : IsOf .missing none rest
  | notRelation {type : ValueType} {caseInsensitive : Bool} {next : String} {rest : List String} :
      IsOf .notRelation (some ⟨.scalar type, caseInsensitive⟩) (next :: rest)
  | notScalar {target : String} {collection caseInsensitive : Bool} :
      IsOf .notScalar (some ⟨.relation target collection, caseInsensitive⟩) []

/-- What the segments of a selector come to: a walk along all but the last leads to a type with a scalar
of this name; or a walk along the first of them leads to a type that is not declared, or to one where
something is wrong with the next segment. -/
inductive Schema.LeadsTo (schema : Schema) (root selector : String) (segments : List String) :
    Except ResolveError Resolution → Prop
  | scalar {found : Resolution} {name type : String} {entity : EntityType} :
      segments = found.steps.map (·.relation) ++ [name] →
      schema.Walk root found.steps type → schema.get? type = some entity →
      entity.get? name = some ⟨.scalar found.type, found.caseInsensitive⟩ →
      LeadsTo schema root selector segments (.ok found)
  | undeclared {steps : List ResolutionStep} {segment type : String} {rest : List String} :
      segments = steps.map (·.relation) ++ segment :: rest → schema.Walk root steps type →
      schema.get? type = none → LeadsTo schema root selector segments (.error (.unknownType type))
  | broken {steps : List ResolutionStep} {segment type : String} {rest : List String}
      {entity : EntityType} {fault : SegmentFault} :
      segments = steps.map (·.relation) ++ segment :: rest → schema.Walk root steps type →
      schema.get? type = some entity → fault.IsOf (entity.get? segment) rest →
      LeadsTo schema root selector segments
        (.error (.unknownAttribute selector segment steps.length type fault entity.names))

namespace Resolution

/-- The same resolution from some steps further back. -/
def beyond (steps : List ResolutionStep) (found : Resolution) : Resolution :=
  { found with steps := steps ++ found.steps }

/-! ### One segment -/

variable {path type segment : String} {rest : List String} {index : Nat} {entity : EntityType}

theorem follow_relation {target next : String} {collection caseInsensitive : Bool}
    (hentity : schema.get? type = some entity)
    (hsegment : entity.get? segment = some ⟨.relation target collection, caseInsensitive⟩) :
    follow schema path type index segment (next :: rest) =
      (follow schema path target (index + 1) next rest).map (after ⟨segment, target, collection⟩) := by
  rw [follow, hentity]
  dsimp only
  rw [hsegment]

theorem follow_undeclared (h : schema.get? type = none) :
    follow schema path type index segment rest = .error (.unknownType type) := by
  unfold follow
  rw [h]

theorem follow_scalar {valueType : ValueType} {caseInsensitive : Bool}
    (hentity : schema.get? type = some entity)
    (hsegment : entity.get? segment = some ⟨.scalar valueType, caseInsensitive⟩) :
    follow schema path type index segment [] = .ok ⟨valueType, caseInsensitive, []⟩ := by
  unfold follow
  rw [hentity]
  dsimp only
  rw [hsegment]

theorem follow_broken {fault : SegmentFault} (hentity : schema.get? type = some entity)
    (hfault : fault.IsOf (entity.get? segment) rest) :
    follow schema path type index segment rest =
      .error (.unknownAttribute path segment index type fault entity.names) := by
  unfold follow
  rw [hentity]
  dsimp only
  generalize entity.get? segment = found at hfault ⊢
  cases hfault <;> rfl

/-! ### All segments -/

/-- Following a walk goes on from where it leads. -/
theorem follow_walk {root last : String} {steps : List ResolutionStep} {back : List String}
    (h : schema.Walk root steps type)
    (hsegments : segment :: rest = steps.map (·.relation) ++ last :: back) :
    follow schema path root index segment rest =
      (follow schema path type (index + steps.length) last back).map (beyond steps) := by
  induction h generalizing segment rest index with
  | here =>
    cases hsegments
    cases follow schema path _ _ last back <;> rfl
  | @step root type entity caseInsensitive first steps hentity hfirst _ ih =>
    rw [List.map_cons, List.cons_append] at hsegments
    obtain ⟨rfl, rfl⟩ := List.cons.inj hsegments
    obtain ⟨next, further, hnext⟩ := List.exists_cons_of_ne_nil
      (List.append_ne_nil_of_right_ne_nil (steps.map (·.relation)) (List.cons_ne_nil last back))
    rw [hnext, follow_relation hentity hfirst, ih hnext.symm, List.length_cons, Nat.add_assoc,
      Nat.add_comm 1]
    cases follow schema path type (index + (steps.length + 1)) last back <;> rfl

end Resolution

namespace Schema

/-- The longest walk along the segments, the last of them aside. -/
theorem exists_walk (schema : Schema) (root segment : String) (rest : List String) :
    ∃ steps type last back, segment :: rest = steps.map (·.relation) ++ last :: back ∧
      schema.Walk root steps type ∧ (back = [] ∨ ∀ entity target collection caseInsensitive,
        schema.get? type = some entity →
          entity.get? last ≠ some ⟨.relation target collection, caseInsensitive⟩) := by
  induction rest generalizing root segment with
  | nil => exact ⟨[], root, segment, [], rfl, .here, .inl rfl⟩
  | cons next rest ih =>
    by_cases h : ∃ entity target collection caseInsensitive, schema.get? root = some entity ∧
        entity.get? segment = some ⟨.relation target collection, caseInsensitive⟩
    · obtain ⟨entity, target, collection, caseInsensitive, hentity, hsegment⟩ := h
      obtain ⟨steps, type, last, back, hsegments, hwalk, hstop⟩ := ih target next
      refine ⟨⟨segment, target, collection⟩ :: steps, type, last, back, ?_, ?_, hstop⟩
      · rw [hsegments]
        rfl
      · exact .step hentity hsegment hwalk
    · refine ⟨[], root, segment, next :: rest, rfl, .here, .inr ?_⟩
      intro entity target collection caseInsensitive hentity hsegment
      exact h ⟨entity, target, collection, caseInsensitive, hentity, hsegment⟩

/-- The segments always come to something. -/
theorem exists_leadsTo (schema : Schema) (root selector segment : String) (rest : List String) :
    ∃ r, schema.LeadsTo root selector (segment :: rest) r := by
  obtain ⟨steps, type, last, back, hsegments, hwalk, hstop⟩ := schema.exists_walk root segment rest
  cases hentity : schema.get? type with
  | none => exact ⟨_, .undeclared hsegments hwalk hentity⟩
  | some entity =>
    have hbroken {fault : SegmentFault} (hfault : fault.IsOf (entity.get? last) back) :
        ∃ r, schema.LeadsTo root selector (segment :: rest) r :=
      ⟨_, .broken hsegments hwalk hentity hfault⟩
    rcases hlast : entity.get? last with _ | ⟨valueType | ⟨target, collection⟩, caseInsensitive⟩
    · exact hbroken (by rw [hlast]; exact .missing)
    · cases back with
      | nil =>
        let found : Resolution := ⟨valueType, caseInsensitive, steps⟩
        exact ⟨.ok found, .scalar hsegments hwalk hentity hlast⟩
      | cons next back => exact hbroken (by rw [hlast]; exact .notRelation)
    · rcases hstop with rfl | hstop
      · exact hbroken (by rw [hlast]; exact .notScalar)
      · exact absurd hlast (hstop entity target collection caseInsensitive hentity)

open Resolution in
/-- What the segments come to is what following them gives. -/
theorem LeadsTo.follow {root selector segment : String} {rest : List String}
    {r : Except ResolveError Resolution} (h : schema.LeadsTo root selector (segment :: rest) r) :
    follow schema selector root 0 segment rest = r := by
  cases h with
  | scalar hsegments hwalk hentity hname =>
    rw [follow_walk hwalk hsegments, follow_scalar hentity hname, Except.map, beyond, List.append_nil]
  | undeclared hsegments hwalk htype =>
    rw [follow_walk hwalk hsegments, follow_undeclared htype]
    rfl
  | broken hsegments hwalk hentity hfault =>
    rw [follow_walk hwalk hsegments, follow_broken hentity hfault, Nat.zero_add]
    rfl

end Schema

/-! ### Selectors -/

section Selectors

variable {root selector : String}

theorem exists_splitAt (mark : Char) (text : String) :
    ∃ first rest, splitAt mark text = first :: rest := by
  apply List.exists_cons_of_ne_nil
  rw [splitAt, Ne, List.map_eq_nil_iff]
  exact List.splitOn_ne_nil mark text.toList

theorem resolve_of_splitAt {segment : String} {rest : List String}
    (h : splitAt '.' selector = segment :: rest) :
    resolve schema root selector = Resolution.follow schema selector root 0 segment rest := by
  unfold resolve
  rw [h]

/-- Resolving a selector reports what its segments come to. -/
theorem resolve_eq_iff_leadsTo {r : Except ResolveError Resolution} :
    resolve schema root selector = r ↔
      schema.LeadsTo root selector (splitAt '.' selector) r := by
  obtain ⟨segment, rest, hsegments⟩ := exists_splitAt '.' selector
  rw [resolve_of_splitAt hsegments, hsegments]
  constructor
  · intro h
    obtain ⟨r', hr'⟩ := schema.exists_leadsTo root selector segment rest
    rw [← h, hr'.follow]
    exact hr'
  · exact Schema.LeadsTo.follow

/-- The same error of a selector with one segment more at its start. -/
def ResolveError.behind (selector : String) : ResolveError → ResolveError
  | unknownType name => .unknownType name
  | unknownAttribute _ segment index type fault available =>
    .unknownAttribute selector segment (index + 1) type fault available

theorem Resolution.follow_behind (schema : Schema) (path selector type segment : String) (index : Nat)
    (rest : List String) : follow schema selector type (index + 1) segment rest =
      (follow schema path type index segment rest).mapError (.behind selector) := by
  induction rest generalizing type segment index with
  | nil =>
    unfold follow
    cases schema.get? type with
    | none => rfl
    | some entity =>
      dsimp only
      rcases entity.get? segment with _ | ⟨_ | _, _⟩ <;> rfl
  | cons next rest ih =>
    unfold follow
    cases schema.get? type with
    | none => rfl
    | some entity =>
      dsimp only
      rcases entity.get? segment with _ | ⟨_ | ⟨target, collection⟩, _⟩
      · rfl
      · rfl
      · dsimp only
        rw [ih]
        cases follow schema path target (index + 1) next rest <;> rfl

theorem splitAt_cons {mark : Char} {first text : String} (h : mark ∉ first.toList) :
    splitAt mark (first ++ String.singleton mark ++ text) = first :: splitAt mark text := by
  have hlist : (first ++ String.singleton mark ++ text).toList =
      first.toList ++ mark :: text.toList := by simp
  rw [splitAt, hlist, List.splitOn_append_cons_self_of_not_mem h, List.map_cons,
    String.ofList_toList, splitAt]

/-- A relation and a selector behind it lead where the selector does from the target of the relation. -/
theorem resolve_relation {relation target : String} {entity : EntityType}
    {collection caseInsensitive : Bool} (hrelation : '.' ∉ relation.toList)
    (hroot : schema.get? root = some entity)
    (hentity : entity.get? relation = some ⟨.relation target collection, caseInsensitive⟩) :
    resolve schema root (relation ++ "." ++ selector) =
      ((resolve schema target selector).map (.after ⟨relation, target, collection⟩)).mapError
        (.behind (relation ++ "." ++ selector)) := by
  obtain ⟨segment, rest, hsegments⟩ := exists_splitAt '.' selector
  have hcons : splitAt '.' (relation ++ "." ++ selector) = relation :: segment :: rest := by
    rw [← hsegments]
    exact splitAt_cons hrelation
  rw [resolve_of_splitAt hcons, resolve_of_splitAt hsegments,
    Resolution.follow_relation hroot hentity, Resolution.follow_behind schema selector]
  cases Resolution.follow schema selector target 0 segment rest <;> rfl

/-- The relations that are followed are the segments but the last. -/
theorem relations_of_resolve {found : Resolution} (h : resolve schema root selector = .ok found) :
    (AttributePath.parse selector).relations = found.steps.map (·.relation) := by
  cases resolve_eq_iff_leadsTo.1 h with
  | scalar hsegments _ _ _ =>
    rw [AttributePath.relations, AttributePath.parse, hsegments, List.dropLast_concat]

/-- The segment that leads nowhere stands where the error says. -/
theorem segment_of_resolve {path segment type : String} {index : Nat} {fault : SegmentFault}
    {available : List String} (h : resolve schema root selector =
      .error (.unknownAttribute path segment index type fault available)) :
    path = selector ∧ ∃ front back, selector.toList.splitOn '.' = front ++ segment.toList :: back ∧
      index = front.length := by
  cases resolve_eq_iff_leadsTo.1 h with
  | @broken steps _ _ rest _ _ hsegments _ _ _ =>
    obtain ⟨front, back, hparts, hfront, hback⟩ := List.map_eq_append_iff.1 hsegments
    obtain ⟨last, back, rfl, rfl, -⟩ := List.map_eq_cons_iff.1 hback
    refine ⟨rfl, front, back, ?_, ?_⟩
    · rw [hparts, String.toList_ofList]
    · rw [← List.length_map (·.relation), ← hfront, List.length_map]

/-- Resolving a selector reports the scalar that its segments walk to, with the steps of the walk, or the
first place where there is no walk along them; the attributes that a report lists are in the order of
their bytes. From the target of a relation a selector leads where it does behind this relation. -/
theorem resolve_walks (schema : Schema) (root selector : String) :
    (∀ r, resolve schema root selector = r ↔
      schema.LeadsTo root selector (splitAt '.' selector) r) ∧
    (∀ path segment index type fault available, resolve schema root selector =
      .error (.unknownAttribute path segment index type fault available) →
      available.Pairwise fun a b => bytes a < bytes b) ∧
    ∀ (relation target : String) (entity : EntityType) (collection caseInsensitive : Bool),
      '.' ∉ relation.toList → schema.get? root = some entity →
      entity.get? relation = some ⟨.relation target collection, caseInsensitive⟩ →
      resolve schema root (relation ++ "." ++ selector) =
        ((resolve schema target selector).map (.after ⟨relation, target, collection⟩)).mapError
          (.behind (relation ++ "." ++ selector)) := by
  refine ⟨fun r => resolve_eq_iff_leadsTo, ?_, ?_⟩
  · intro path segment index type fault available h
    cases resolve_eq_iff_leadsTo.1 h with
    | @broken _ _ _ _ entity _ _ _ _ _ => exact entity.names_bytes
  · intro relation target entity collection caseInsensitive hrelation hroot hentity
    exact resolve_relation hrelation hroot hentity

/-- Two types that lead to each other, and one relation to a type that is not declared. -/
def Schema.cyclic : Schema :=
  Table.empty.insert "T" ((Table.empty.insert "kids" (.relation "U" true)).insert "name"
      (.scalar .string)) |>.insert "U"
    ((Table.empty.insert "parent" (.relation "T" false)).insert "gone" (.relation "V" false))

/-- Relations are followed round a cycle, a relation to a type that is not declared leads nowhere, and
the last segment is no relation. -/
theorem resolve_walks_cyclic :
    resolve .cyclic "T" "kids.parent.name" =
      .ok ⟨.string, false, [⟨"kids", "U", true⟩, ⟨"parent", "T", false⟩]⟩ ∧
    resolve .cyclic "T" "kids.gone.name" = .error (.unknownType "V") ∧
    resolve .cyclic "T" "kids.parent.kids" =
      .error (.unknownAttribute "kids.parent.kids" "kids" 2 "T" .notScalar ["kids", "name"]) ∧
    ["kids", "name"].Pairwise fun a b => bytes a < bytes b := by
  let types : EntityType :=
    (Table.empty.insert "kids" (.relation "U" true)).insert "name" (.scalar .string)
  have hroot : Schema.cyclic.get? "T" = some types := rfl
  have hkids : types.get? "kids" = some ⟨.relation "U" true, false⟩ := rfl
  have hbehind (selector : String) :=
    (resolve_walks .cyclic "T" selector).2.2 "kids" "U" types true false (by decide) hroot hkids
  have hname : resolve .cyclic "T" "kids.parent.name" =
      .ok ⟨.string, false, [⟨"kids", "U", true⟩, ⟨"parent", "T", false⟩]⟩ :=
    (hbehind "parent.name").trans (by decide +kernel)
  have hgone : resolve .cyclic "T" "kids.gone.name" = .error (.unknownType "V") :=
    (hbehind "gone.name").trans (by decide +kernel)
  have hkidsTwice : resolve .cyclic "T" "kids.parent.kids" =
      .error (.unknownAttribute "kids.parent.kids" "kids" 2 "T" .notScalar ["kids", "name"]) :=
    (hbehind "parent.kids").trans (by decide +kernel)
  exact ⟨hname, hgone, hkidsTwice, (resolve_walks .cyclic "T" _).2.1 _ _ _ _ _ _ hkidsTwice⟩

end Selectors

end FilterQuery
