import FilterQuery.Proofs.Predicate.Rendering

/-!
# Comparisons that do not compile

A query compiles if its comparisons do, one by one and each on its own; else the leftmost of those that
do not is reported.

* `HasArgumentFault`, `Placed.HasFault` : what is reported of a comparison, which is the first of its
  faults, and `Placed.compile_eq_error_iff`;
* `Query.compiles_by_comparisons` : the predicate of a query or its failure, from its comparisons.
-/

set_option autoImplicit false

namespace FilterQuery

/-! ### The first pair of a kind -/

section Zip

universe u v

variable {α : Type u} {β : Type v} {x : α} {y : β} {P : α → Prop}

/-- The first pair of a kind is that of the first element of this kind, if this one has a partner. -/
theorem exists_zip_eq_append {xs : List α} {ys : List β} :
    (∃ front back, xs.zip ys = front ++ (x, y) :: back ∧ ∀ z ∈ front, P z.1) ↔
      ∃ front back, xs = front ++ x :: back ∧ ys[front.length]? = some y ∧ ∀ z ∈ front, P z := by
  constructor
  · rintro ⟨front, back, hzip, hfront⟩
    -- on the pairs before, which use up both lists alike
    induction front generalizing xs ys with
    | nil =>
      obtain ⟨xs, ys, rfl, rfl, -⟩ := List.zip_eq_cons_iff.1 hzip
      exact ⟨[], xs, rfl, rfl, List.forall_mem_nil _⟩
    | cons z front ih =>
      obtain ⟨xs, ys, rfl, rfl, htail⟩ := List.zip_eq_cons_iff.1 hzip
      obtain ⟨hz, hfront⟩ := List.forall_mem_cons.1 hfront
      obtain ⟨front, back, rfl, hy, hfront⟩ := ih htail.symm hfront
      exact ⟨z.1 :: front, back, rfl, hy, List.forall_mem_cons.2 ⟨hz, hfront⟩⟩
  · rintro ⟨front, back, rfl, hy, hfront⟩
    induction front generalizing ys with
    | nil =>
      cases ys with
      | nil => cases hy
      | cons _ ys =>
        cases hy
        exact ⟨[], back.zip ys, rfl, List.forall_mem_nil _⟩
    | cons z front ih =>
      cases ys with
      | nil => cases hy
      | cons w ys =>
        obtain ⟨hz, hfront⟩ := List.forall_mem_cons.1 hfront
        obtain ⟨front', back', hzip, hfront'⟩ := ih hy hfront
        refine ⟨(z, w) :: front', back', ?_, List.forall_mem_cons.2 ⟨hz, hfront'⟩⟩
        rw [List.cons_append, List.zip_cons_cons, hzip, List.cons_append]

end Zip

/-! ### One comparison -/

/-- What is reported of the arguments of a comparison: there is none to make a pattern of, or it makes
too large a pattern; or one that has a place is not of the type, and is the first of those that are
not. -/
inductive HasArgumentFault [PatternSize] (p : Placed) (op : Operator) (type : ValueType)
    (foldCase : Bool) : CompileError → Prop
  | patternMissing : op.isNullCheck = false → op.isPattern → p.arguments = [] →
      HasArgumentFault p op type foldCase .patternMissing
  | patternTooLarge {source : String} {others : List String} : op.isNullCheck = false →
      op.isPattern → p.arguments = source :: others → LikePattern.ofSource? source foldCase = none →
      HasArgumentFault p op type foldCase
        (.patternTooLarge source (p.argumentSpans.head?.getD p.operatorSpan))
  | coercion {front back : List String} {argument : String} {span : Span} {error : CoercionError} :
      op.isNullCheck = false → op.isPattern = false → p.arguments = front ++ argument :: back →
      p.argumentSpans[front.length]? = some span → (∀ a ∈ front, ∃ v, coerce a type = .ok v) →
      coerce argument type = .error error →
      HasArgumentFault p op type foldCase (.coercion argument type error span)

namespace Placed

variable {schema : Schema} {root : String} {options : Options} {p : Placed}

/-- What is reported of a comparison: its selector names no scalar; or it does, and the operator does not
apply to it; or the operator does, and something is wrong with the arguments. -/
inductive HasFault [PatternSize] (schema : Schema) (root : String) (options : Options)
    (p : Placed) : CompileError → Prop
  | unresolved {e : ResolveError} : resolve schema root p.selector = .error e →
      HasFault schema root options p (e.compileError p)
  | unsupported {found : Resolution} {op : Operator} : resolve schema root p.selector = .ok found →
      op = p.effectiveOperator options found.type → op.supports found.type = false →
      HasFault schema root options p
        (.unsupportedOperator op found.type p.selector p.operatorSpan p.selectorSpan)
  | argument {found : Resolution} {op : Operator} {e : CompileError} :
      resolve schema root p.selector = .ok found → op = p.effectiveOperator options found.type →
      op.supports found.type → HasArgumentFault p op found.type (folds options found op) e →
      HasFault schema root options p e

theorem exists_value_iff {type : ValueType} {foldCase : Bool} {argument : String} {span : Span} :
    (∃ v, value type foldCase argument span = .ok v) ↔ ∃ v, coerce argument type = .ok v := by
  rw [value_eq]
  cases coerce argument type <;> simp [Except.map, Except.mapError]

theorem value_eq_error_iff {type : ValueType} {foldCase : Bool} {argument : String} {span : Span}
    {e : CompileError} : value type foldCase argument span = .error e ↔
      ∃ error, coerce argument type = .error error ∧ e = .coercion argument type error span := by
  rw [value_eq]
  cases coerce argument type <;> simp [Except.map, Except.mapError, eq_comm]

/-- The first value that there is not is that of the first argument that is not read, if that has a
place. -/
theorem values_eq_error_iff {type : ValueType} {foldCase : Bool} {arguments : List String}
    {spans : List Span} {e : CompileError} :
    ((arguments.zip spans).mapM fun (argument, span) => value type foldCase argument span) =
        .error e ↔ ∃ front argument back span error, arguments = front ++ argument :: back ∧
      spans[front.length]? = some span ∧ (∀ a ∈ front, ∃ v, coerce a type = .ok v) ∧
      coerce argument type = .error error ∧ e = .coercion argument type error span := by
  rw [mapM_eq_error]
  constructor
  · rintro ⟨front, ⟨argument, span⟩, back, hzip, hfront, herror⟩
    obtain ⟨error, hargument, he⟩ := value_eq_error_iff.1 herror
    have hread : ∀ z ∈ front, ∃ v, coerce z.1 type = .ok v := by
      intro z hz
      exact exists_value_iff.1 (hfront z hz)
    obtain ⟨front, back, harguments, hspan, hfront⟩ :=
      exists_zip_eq_append (P := fun a => ∃ v, coerce a type = .ok v).1 ⟨_, _, hzip, hread⟩
    exact ⟨front, argument, back, span, error, harguments, hspan, hfront, hargument, he⟩
  · rintro ⟨front, argument, back, span, error, harguments, hspan, hfront, hargument, he⟩
    obtain ⟨front, back, hzip, hread⟩ :=
      exists_zip_eq_append.2 ⟨front, back, harguments, hspan, hfront⟩
    refine ⟨front, (argument, span), back, hzip, ?_, value_eq_error_iff.2 ⟨error, hargument, he⟩⟩
    intro z hz
    exact exists_value_iff.2 (hread z hz)

theorem condition_eq_error_iff [PatternSize] {op : Operator} {type : ValueType} {foldCase : Bool}
    {e : CompileError} :
    p.condition op type foldCase = .error e ↔ HasArgumentFault p op type foldCase e := by
  constructor
  · intro h
    unfold condition at h
    dsimp only at h
    split at h
    · cases h
    · next hnull =>
      rw [Bool.not_eq_true] at hnull
      split at h
      · next hpattern =>
        split at h
        · next harguments =>
          cases h
          exact .patternMissing hnull hpattern harguments
        · next source others harguments =>
          split at h
          · cases h
          · next hof =>
            cases h
            exact .patternTooLarge hnull hpattern harguments hof
      · next hpattern =>
        rw [Bool.not_eq_true] at hpattern
        obtain ⟨front, argument, back, span, error, harguments, hspan, hfront, hargument, rfl⟩ :=
          values_eq_error_iff.1 (map_eq_error.1 h)
        exact .coercion hnull hpattern harguments hspan hfront hargument
  · intro h
    unfold condition
    cases h with
    | patternMissing hnull hpattern harguments =>
      rw [hnull, if_neg Bool.false_ne_true, if_pos hpattern, harguments]
    | patternTooLarge hnull hpattern harguments hof =>
      rw [hnull, if_neg Bool.false_ne_true, if_pos hpattern, harguments]
      dsimp only
      rw [hof]
    | coercion hnull hpattern harguments hspan hfront hargument =>
      rw [hnull, if_neg Bool.false_ne_true, hpattern, if_neg Bool.false_ne_true]
      exact map_eq_error.2
        (values_eq_error_iff.2 ⟨_, _, _, _, _, harguments, hspan, hfront, hargument, rfl⟩)

theorem compile_eq_error_iff [PatternSize] {e : CompileError} :
    p.compile schema root options = .error e ↔ p.HasFault schema root options e := by
  constructor
  · intro h
    unfold compile at h
    split at h
    · next hresolve =>
      cases h
      exact .unresolved hresolve
    · next found hfound =>
      dsimp only at h
      split at h
      · next hsupports => exact .argument hfound rfl hsupports (condition_eq_error_iff.1 h)
      · next hsupports =>
        cases h
        exact .unsupported hfound rfl (Bool.eq_false_iff.2 hsupports)
  · intro h
    unfold compile
    cases h with
    | unresolved hresolve => rw [hresolve]
    | unsupported hfound hop hsupports =>
      subst hop
      rw [hfound]
      dsimp only
      rw [hsupports, if_neg Bool.false_ne_true]
    | argument hfound hop hsupports hfault =>
      subst hop
      rw [hfound]
      dsimp only
      rw [if_pos hsupports]
      exact condition_eq_error_iff.2 hfault

end Placed

/-! ### Queries -/

namespace Query

section

variable [PatternSize] {schema : Schema} {root : String} {options : Options} {q : Query}

/-- A query fails as the leftmost of its comparisons that do not compile. -/
theorem compile_eq_error_iff {e : CompileError} : q.compile schema root options = .error e ↔
    ∃ front a back, q.atoms = front ++ a :: back ∧
      (∀ b ∈ front, ∃ c, b.compile schema root options = .ok c) ∧
      a.compile schema root options = .error e :=
  Formula.traverse_eq_error_iff

theorem compile_eq_ok_iff {p : Predicate} : q.compile schema root options = .ok p ↔
    q.map (·.compile schema root options) = p.map .ok :=
  Formula.traverse_eq_ok_iff

theorem exists_compile_iff : (∃ p, q.compile schema root options = .ok p) ↔
    ∀ a ∈ q.atoms, ∃ c, a.compile schema root options = .ok c := by
  constructor
  · rintro ⟨p, hp⟩ a ha
    have hatoms := congrArg Formula.atoms (compile_eq_ok_iff.1 hp)
    rw [Formula.atoms_map, Formula.atoms_map] at hatoms
    have hmem : a.compile schema root options ∈ p.atoms.map .ok := by
      rw [← hatoms]
      exact List.mem_map_of_mem ha
    obtain ⟨c, -, hc⟩ := List.mem_map.1 hmem
    exact ⟨c, hc.symm⟩
  · intro h
    cases hq : q.compile schema root options with
    | ok p => exact ⟨p, rfl⟩
    | error e =>
      obtain ⟨front, a, back, hatoms, -, ha⟩ := compile_eq_error_iff.1 hq
      have hmem : a ∈ q.atoms := by
        rw [hatoms]
        exact List.mem_append_right front List.mem_cons_self
      obtain ⟨c, hc⟩ := h a hmem
      rw [ha] at hc
      cases hc

/-- The predicate of a query tests the selectors of the query, in their order. -/
theorem paths_of_compile {p : Predicate} (h : q.compile schema root options = .ok p) :
    p.atoms.map (·.path) = q.atoms.map (.parse ·.selector) := by
  have hpaths : q.map (AttributePath.parse ·.selector) = p.map (·.path) := by
    apply Formula.map_eq_map_of_atoms (compile_eq_ok_iff.1 h)
    intro a _ c _ hac
    obtain ⟨found, -, -, hcond⟩ := Placed.compile_eq_ok_iff.1 hac
    exact hcond.path.symm
  rw [← Formula.atoms_map, ← hpaths, Formula.atoms_map]

/-- The predicate of a query joins its conditions as the query joins its comparisons. -/
theorem shape_of_compile {p : Predicate} (h : q.compile schema root options = .ok p) :
    p.map (fun _ => ()) = q.map fun _ => () := by
  symm
  apply Formula.map_eq_map_of_atoms (compile_eq_ok_iff.1 h)
  intro _ _ _ _ _
  rfl

/-- A query compiles if each of its comparisons does, as it does on its own. Its predicate has the
conditions of the comparisons in the places of these; else the query fails as the leftmost of the
comparisons that do not compile, whatever comes after that one. Of a comparison the first fault is
reported. -/
theorem compiles_by_comparisons (schema : Schema) (root : String) (options : Options) (q : Query) :
    (∀ a : Placed, compile (.atom a) schema root options =
      (a.compile schema root options).map .atom) ∧
    ((∃ p, q.compile schema root options = .ok p) ↔
      ∀ a ∈ q.atoms, ∃ c, a.compile schema root options = .ok c) ∧
    (∀ p, q.compile schema root options = .ok p ↔
      q.map (·.compile schema root options) = p.map .ok) ∧
    (∀ p, q.compile schema root options = .ok p →
      p.atoms.map (·.path) = q.atoms.map (.parse ·.selector) ∧ p.atoms.length = q.size ∧
        p.map (fun _ => ()) = q.map fun _ => ()) ∧
    (∀ e, q.compile schema root options = .error e ↔ ∃ front a back,
      q.atoms = front ++ a :: back ∧
      (∀ b ∈ front, ∃ c, b.compile schema root options = .ok c) ∧
      a.compile schema root options = .error e) ∧
    ∀ (a : Placed) e, a.compile schema root options = .error e ↔
      a.HasFault schema root options e := by
  refine ⟨Formula.traverse_atom _, exists_compile_iff, fun p => compile_eq_ok_iff, ?_,
    fun e => compile_eq_error_iff, fun a e => Placed.compile_eq_error_iff⟩
  intro p hp
  have hlength := congrArg List.length (paths_of_compile hp)
  rw [List.length_map, List.length_map] at hlength
  exact ⟨paths_of_compile hp, hlength, shape_of_compile hp⟩

end

open Predicate (smallSchema)

theorem compiles_by_comparisons_leftmost :
    (∃ q p, ofText "a==x,(b=in=(1,2);b>0)" = .ok q ∧ q.compile smallSchema "T" {} = .ok p ∧
      p.atoms.map (·.path) = q.atoms.map (.parse ·.selector) ∧ p.atoms.length = q.size ∧
      p.map (fun _ => ()) = q.map fun _ => ()) ∧
    ∃ q e, ofText "a==x;(b==1,b=in=(2,y,z));c==2" = .ok q ∧
      q.compile smallSchema "T" {} = .error e ∧
      e = .coercion "y" .integer (.integer .invalidDigit) ⟨19, 1⟩ ∧ ∃ front a back,
        q.atoms = front ++ a :: back ∧
        (∀ b ∈ front, ∃ c, b.compile smallSchema "T" {} = .ok c) ∧
        a.HasFault smallSchema "T" {} e := by
  constructor
  · have h : (ofText "a==x,(b=in=(1,2);b>0)").toOption.any fun q =>
        (q.compile smallSchema "T" {}).toBool := by
      decide +kernel
    cases hq : ofText "a==x,(b=in=(1,2);b>0)" with
    | error e =>
      rw [hq] at h
      cases h
    | ok q =>
      rw [hq] at h
      cases hp : q.compile smallSchema "T" {} with
      | error e =>
        rw [Except.toOption, Option.any_some, hp] at h
        cases h
      | ok p =>
        obtain ⟨-, -, -, hshape, -, -⟩ := compiles_by_comparisons smallSchema "T" {} q
        exact ⟨q, p, rfl, hp, hshape p hp⟩
  · have h : (ofText "a==x;(b==1,b=in=(2,y,z));c==2").toOption.any fun q =>
        (q.compile smallSchema "T" {}).map (fun _ => ()) =
          .error (.coercion "y" .integer (.integer .invalidDigit) ⟨19, 1⟩) := by
      decide +kernel
    cases hq : ofText "a==x;(b==1,b=in=(2,y,z));c==2" with
    | error e =>
      rw [hq] at h
      cases h
    | ok q =>
      rw [hq] at h
      have he := map_eq_error.1 (of_decide_eq_true h)
      obtain ⟨-, -, -, -, hleftmost, hfault⟩ := compiles_by_comparisons smallSchema "T" {} q
      obtain ⟨front, a, back, hatoms, hfront, ha⟩ := (hleftmost _).1 he
      exact ⟨q, _, rfl, he, rfl, front, a, back, hatoms, hfront, (hfault a _).1 ha⟩

end Query

end FilterQuery
