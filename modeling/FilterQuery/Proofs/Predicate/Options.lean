import FilterQuery.Proofs.Predicate.Compiled
import FilterQuery.Proofs.Table

/-!
# Options as changes of what is compiled

Whatever the options do can be done to the query and to the schema beforehand: stars make patterns of
equalities in the query, and scalars lose their case in the schema.

* `Table.map` : other values under the same names;
* `Schema.ignoringCase` : the schema with every scalar marked as case-insensitive, and
  `resolve_ignoringCase`, what selectors lead to there;
* `Placed.withPattern` : the comparison with a pattern in place of an equality with a star;
* `Query.compile_options` : compiling with options is compiling the changed query against the changed
  schema without any.
-/

set_option autoImplicit false

namespace FilterQuery

/-! ### Tables -/

namespace Table

universe u v
variable {β : Type u} {γ : Type v}

/-- Other values under the same names. -/
def map (f : β → γ) (t : Table β) : Table γ :=
  ⟨t.entries.map (Prod.map id f), List.pairwise_map.2 t.ascending⟩

@[simp] theorem names_map (f : β → γ) (t : Table β) : (t.map f).names = t.names := by
  simp [names, map, Function.comp_def]

@[simp] theorem get?_map (f : β → γ) (t : Table β) (name : String) :
    (t.map f).get? name = (t.get? name).map f :=
  lookup_map f name t.entries

end Table

/-! ### Case-insensitive schemas -/

/-- The attribute without regard to case if it is a scalar. -/
def Attribute.ignoringCaseOfScalar (a : Attribute) : Attribute :=
  match a.kind with
  | .scalar _ => a.ignoringCase
  | .relation .. => a

/-- The schema with every scalar marked as case-insensitive. -/
def Schema.ignoringCase (schema : Schema) : Schema :=
  schema.map (Table.map Attribute.ignoringCaseOfScalar)

/-- The same way to a scalar that is case-insensitive. -/
def Resolution.ignoringCase (found : Resolution) : Resolution :=
  { found with caseInsensitive := true }

theorem Resolution.follow_ignoringCase (schema : Schema) (path : String) (rest : List String)
    (segment type : String) (index : Nat) :
    follow schema.ignoringCase path type index segment rest =
      (follow schema path type index segment rest).map ignoringCase := by
  induction rest generalizing segment type index with
  | nil =>
    unfold follow Schema.ignoringCase
    rw [Table.get?_map]
    cases schema.get? type with
    | none => rfl
    | some entity =>
      simp only [Option.map_some, Table.get?_map, Table.names_map]
      rcases entity.get? segment with _ | ⟨_ | _, _⟩ <;> rfl
  | cons next rest ih =>
    unfold follow
    unfold Schema.ignoringCase at ih ⊢
    rw [Table.get?_map]
    cases schema.get? type with
    | none => rfl
    | some entity =>
      simp only [Option.map_some, Table.get?_map, Table.names_map]
      rcases entity.get? segment with _ | ⟨_ | ⟨target, collection⟩, _⟩
      · rfl
      · rfl
      · simp only [Option.map_some, Attribute.ignoringCaseOfScalar, ih]
        cases follow schema path target (index + 1) next rest <;> rfl

theorem resolve_ignoringCase (schema : Schema) (root selector : String) :
    resolve schema.ignoringCase root selector =
      (resolve schema root selector).map Resolution.ignoringCase := by
  unfold resolve
  split
  · rfl
  · exact Resolution.follow_ignoringCase ..

/-! ### Equalities with a star -/

/-- The pattern operator that goes with an equality. -/
def Operator.withPattern : Operator → Operator
  | .equal => .like
  | .notEqual => .notLike
  | op => op

namespace Placed

/-- Whether the selector leads to a string, and an argument has a star. -/
def hasWildcard (schema : Schema) (root : String) (p : Placed) : Bool :=
  match resolve schema root p.selector with
  | .ok found => found.type = .string && p.arguments.any fun a => star ∈ a.toList
  | .error _ => false

/-- The comparison with a pattern in place of an equality with a star. -/
def withPattern (schema : Schema) (root : String) (p : Placed) : Placed :=
  if p.hasWildcard schema root then { p with operator := p.operator.withPattern } else p

variable {schema : Schema} {root : String} {caseInsensitive : Bool}

theorem withPattern_eq (schema : Schema) (root : String) (p : Placed) :
    ∃ op, p.withPattern schema root = { p with operator := op } := by
  unfold withPattern
  split
  · exact ⟨_, rfl⟩
  · exact ⟨p.operator, rfl⟩

theorem operator_withPattern {p : Placed} {found : Resolution}
    (h : resolve schema root p.selector = .ok found) :
    (p.withPattern schema root).operator =
      p.effectiveOperator ⟨true, caseInsensitive⟩ found.type := by
  unfold withPattern hasWildcard effectiveOperator
  rw [h]
  simp only [Bool.true_and]
  split
  · cases p.operator <;> rfl
  · cases p.operator <;> rfl

theorem effectiveOperator_of_no_wildcards (p : Placed) (type : ValueType) :
    p.effectiveOperator ⟨false, caseInsensitive⟩ type = p.operator :=
  effectiveOperator_of_hasNoWildcard fun _ h => absurd h Bool.false_ne_true

theorem compile_withPattern [PatternSize] (p : Placed) :
    (p.withPattern schema root).compile schema root ⟨false, caseInsensitive⟩ =
      p.compile schema root ⟨true, caseInsensitive⟩ := by
  obtain ⟨op, hp⟩ := p.withPattern_eq schema root
  unfold compile
  rw [hp]
  cases hfound : resolve schema root p.selector with
  | error e => rfl
  | ok found =>
    have hop : op = p.effectiveOperator ⟨true, caseInsensitive⟩ found.type := by
      rw [← operator_withPattern hfound, hp]
    simp only [effectiveOperator_of_no_wildcards, ← hop]
    rfl

theorem compile_ignoringCase [PatternSize] (p : Placed) (wildcards : Bool) :
    p.compile schema.ignoringCase root ⟨wildcards, false⟩ =
      p.compile schema root ⟨wildcards, true⟩ := by
  unfold compile
  rw [resolve_ignoringCase]
  cases resolve schema root p.selector with
  | error e => rfl
  | ok found => simp [Except.map, Resolution.ignoringCase, effectiveOperator]

end Placed

/-! ### Queries -/

namespace Options

/-- With wildcards, patterns in place of the equalities with a star. -/
def changeQuery (options : Options) (schema : Schema) (root : String) (q : Query) : Query :=
  if options.wildcardEquality then q.map (Placed.withPattern schema root) else q

/-- With case-insensitive strings, every scalar marked so. -/
def changeSchema (options : Options) (schema : Schema) : Schema :=
  if options.caseInsensitiveStrings then schema.ignoringCase else schema

end Options

/-- Compiling with options gives the predicate, or the error, that compiling the changed query against
the changed schema gives without any option. -/
theorem Query.compile_options [PatternSize] (q : Query) (schema : Schema) (root : String)
    (options : Options) :
    q.compile schema root options =
      (options.changeQuery schema root q).compile (options.changeSchema schema) root {} := by
  obtain ⟨wildcards, caseInsensitive⟩ := options
  have hquery : q.compile schema root ⟨wildcards, caseInsensitive⟩ =
      (Options.changeQuery ⟨wildcards, caseInsensitive⟩ schema root q).compile schema root
        ⟨false, caseInsensitive⟩ := by
    cases wildcards with
    | false => rfl
    | true => exact (Formula.traverse_map_eq fun p _ => p.compile_withPattern).symm
  have hschema (q : Query) : q.compile schema root ⟨false, caseInsensitive⟩ =
      q.compile (Options.changeSchema ⟨wildcards, caseInsensitive⟩ schema) root {} := by
    cases caseInsensitive with
    | false => rfl
    | true =>
      unfold compile Options.changeSchema
      simp only [if_true, Placed.compile_ignoringCase]
  rw [hquery, hschema]

end FilterQuery
