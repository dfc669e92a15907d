import FilterQuery.Formula
import FilterQuery.Proofs.Basic
import Mathlib.Data.List.Basic

/-!
# Shapes of formulas

* `Formula.height` : the most groups on a way from the root to an atom, and `Formula.nesting`, the
  same without the root;
* `Formula.IsBranching` : every group has two parts or more;
* `renderPart` : the text of a formula as a part of another;
* `map_join_atoms`, `render_join_atoms`, `exists_atoms_of_map_eq_join` : joins of atoms;
* `map_eq_map_of_atoms` : formulas of one shape;
* `traverse_eq_ok_iff`, `traverse_eq_error_iff`, `traverse_map`, `traverse_join` : what a traversal
  gives;
* `holds_join_and`, `holds_join_or` : when a formula holds;
* `agrees_self` : when a formula agrees with itself;
* how `map`, `atoms`, `join` and `render` act on atoms and groups.
-/

set_option autoImplicit false

namespace FilterQuery.Formula

universe u v w

variable {α : Type u} {β : Type v} {γ : Type w}

/-! ### Atoms and groups -/

@[simp] theorem fold_atom (atom : α → β) (group : Connective → List β → β) (a : α) :
    (Formula.atom a).fold atom group = atom a := rfl

@[simp] theorem fold_group (atom : α → β) (group : Connective → List β → β) (c : Connective)
    (parts : List (Formula α)) :
    (Formula.group c parts).fold atom group = group c (parts.map (fold atom group)) := by
  rw [fold, foldParts_eq_map]

@[simp] theorem map_atom (f : α → β) (a : α) : (Formula.atom a).map f = .atom (f a) := rfl

@[simp] theorem map_group (f : α → β) (c : Connective) (parts : List (Formula α)) :
    (Formula.group c parts).map f = .group c (parts.map (map f)) := fold_group ..

@[simp] theorem atoms_atom (a : α) : (Formula.atom a).atoms = [a] := rfl

@[simp] theorem atoms_group (c : Connective) (parts : List (Formula α)) :
    (Formula.group c parts).atoms = parts.flatMap atoms := by
  rw [atoms, fold_group, List.flatMap_def]

theorem mem_atoms_group {c : Connective} {parts : List (Formula α)} {part : Formula α} {a : α}
    (hp : part ∈ parts) (ha : a ∈ part.atoms) : a ∈ (Formula.group c parts).atoms := by
  rw [atoms_group]
  exact List.mem_flatMap.2 ⟨part, hp, ha⟩

theorem join_of_length {c : Connective} {parts : List (Formula α)} (h : 2 ≤ parts.length) :
    join c parts = .group c parts := by
  match parts, h with
  | _ :: _ :: _, _ => rfl

theorem join_cases (c : Connective) {parts : List (Formula α)} (h : parts ≠ []) :
    (∃ only, parts = [only] ∧ join c parts = only) ∨
      2 ≤ parts.length ∧ join c parts = .group c parts := by
  match parts, h with
  | [only], _ => exact .inl ⟨only, rfl, rfl⟩
  | _ :: _ :: _, _ => exact .inr ⟨by simp, rfl⟩

@[simp] theorem map_join (f : α → β) (c : Connective) (parts : List (Formula α)) :
    (join c parts).map f = join c (parts.map (map f)) := by
  match parts with
  | [] => rfl
  | [_] => rfl
  | _ :: _ :: _ => exact map_group ..

@[simp] theorem atoms_join (c : Connective) (parts : List (Formula α)) :
    (join c parts).atoms = parts.flatMap atoms := by
  match parts with
  | [] => rfl
  | [only] => exact (List.append_nil _).symm
  | _ :: _ :: _ => exact atoms_group ..

theorem map_map (g : β → γ) (f : α → β) (q : Formula α) : (q.map f).map g = q.map (g ∘ f) := by
  induction q using Formula.induction with
  | atom a => rfl
  | group c parts ih =>
    rw [map_group, map_group, map_group, List.map_map]
    exact congrArg _ (List.map_congr_left ih)

theorem atoms_map (f : α → β) (q : Formula α) : (q.map f).atoms = q.atoms.map f := by
  induction q using Formula.induction with
  | atom a => rfl
  | group c parts ih =>
    rw [map_group, atoms_group, atoms_group, List.flatMap_map, List.map_flatMap]
    exact List.flatMap_congr ih

/-! ### Text -/

/-- The text of a formula as a part of another: a group stands in parentheses. -/
def renderPart (leaf : α → List Char) : Formula α → List Char
  | .atom a => leaf a
  | .group c parts => '(' :: (Formula.group c parts).render leaf ++ [')']

@[simp] theorem render_atom (leaf : α → List Char) (a : α) :
    (Formula.atom a).render leaf = leaf a := rfl

theorem render_group (leaf : α → List Char) (c : Connective) (parts : List (Formula α)) :
    (Formula.group c parts).render leaf = [c.mark].intercalate (parts.map (renderPart leaf)) := by
  rw [render, fold_group, List.map_map]
  refine (if_neg Bool.false_ne_true).trans (congrArg _ (List.map_congr_left fun part _ => ?_))
  cases part with
  | atom a => rfl
  | group d parts =>
    rw [renderPart, render, Function.comp_apply, fold_group]
    rfl

/-! ### Height -/

/-- The most groups on a way from the root to an atom. -/
def height : Formula α → Nat := fold (fun _ => 0) fun _ parts => parts.foldr max 0 + 1

/-- The most groups on a way from the root to an atom, without the root. -/
def nesting (q : Formula α) : Nat := q.height - 1

@[simp] theorem height_atom (a : α) : (Formula.atom a).height = 0 := rfl

@[simp] theorem height_group (c : Connective) (parts : List (Formula α)) :
    (Formula.group c parts).height = (parts.map height).foldr max 0 + 1 := fold_group ..

@[simp] theorem nesting_atom (a : α) : (Formula.atom a).nesting = 0 := rfl

@[simp] theorem nesting_group (c : Connective) (parts : List (Formula α)) :
    (Formula.group c parts).nesting = (parts.map height).foldr max 0 := by
  rw [nesting, height_group, Nat.add_sub_cancel]

theorem height_map (f : α → β) (q : Formula α) : (q.map f).height = q.height := by
  induction q using Formula.induction with
  | atom a => rfl
  | group c parts ih =>
    have hparts : (parts.map (map f)).map height = parts.map height := by
      rw [List.map_map]
      exact List.map_congr_left ih
    rw [map_group, height_group, height_group, hparts]

/-! ### Joins of atoms -/

theorem map_join_atoms (f : α → β) (c : Connective) (xs : List α) :
    (join c (xs.map .atom)).map f = join c ((xs.map f).map .atom) := by
  rw [map_join, List.map_map, List.map_map]
  rfl

theorem atoms_join_atoms (c : Connective) (xs : List α) : (join c (xs.map .atom)).atoms = xs := by
  rw [atoms_join, List.flatMap_map]
  exact List.flatMap_singleton' xs

theorem render_join_atoms (leaf : α → List Char) (c : Connective) {xs : List α} (h : xs ≠ []) :
    (join c (xs.map .atom)).render leaf = [c.mark].intercalate (xs.map leaf) := by
  match xs, h with
  | [x], _ =>
    rw [List.map_singleton, List.map_singleton, List.intercalate_singleton]
    rfl
  | x :: y :: rest, _ =>
    rw [join_of_length (by simp), render_group, List.map_map]
    rfl

theorem nesting_join_atoms (c : Connective) (xs : List α) :
    (join c (xs.map .atom)).nesting = 0 := by
  have hatoms (xs : List α) : ((xs.map atom).map height).foldr max 0 = 0 := by
    induction xs with
    | nil => rfl
    | cons x xs ih =>
      rw [List.map_cons, List.map_cons, List.foldr_cons, ih]
      rfl
  match xs with
  | [x] => rfl
  | [] => rfl
  | x :: y :: rest => rw [join_of_length (by simp), nesting_group, hatoms]

/-! ### Groups of two parts or more -/

/-- Every group has two parts or more. -/
def IsBranching : Formula α → Prop :=
  fold (fun _ => True) fun _ parts => 2 ≤ parts.length ∧ ∀ part ∈ parts, part

@[simp] theorem isBranching_atom (a : α) : (Formula.atom a).IsBranching := trivial

@[simp] theorem isBranching_group (c : Connective) (parts : List (Formula α)) :
    (Formula.group c parts).IsBranching ↔ 2 ≤ parts.length ∧ ∀ part ∈ parts, part.IsBranching := by
  rw [IsBranching, fold_group, List.length_map, List.forall_mem_map]

theorem isBranching_join (c : Connective) {parts : List (Formula α)} (hne : parts ≠ [])
    (h : ∀ part ∈ parts, part.IsBranching) : (join c parts).IsBranching := by
  rcases join_cases c hne with ⟨only, rfl, hj⟩ | ⟨hl, hj⟩
  · rw [hj]
    exact h only (List.mem_singleton_self _)
  · rw [hj]
    exact (isBranching_group c parts).2 ⟨hl, h⟩

theorem isBranching_map (f : α → β) (q : Formula α) : (q.map f).IsBranching ↔ q.IsBranching := by
  induction q using Formula.induction with
  | atom a => exact Iff.rfl
  | group c parts ih =>
    rw [map_group, isBranching_group, isBranching_group, List.length_map, List.forall_mem_map]
    exact and_congr_right fun _ => forall₂_congr ih

/-! ### Formulas of one shape -/

theorem map_parts_eq {α' : Type*} {β' : Type*} {γ' : Type*} {δ' : Type*} {g : α' → γ'}
    {h : β' → γ'} {g' : α' → δ'} {h' : β' → δ'} {xs : List α'} {ys : List β'}
    (hp : ∀ x ∈ xs, ∀ y ∈ ys, g x = h y → g' x = h' y) (heq : xs.map g = ys.map h) :
    xs.map g' = ys.map h' := by
  induction xs generalizing ys with
  | nil =>
    rw [List.map_eq_nil_iff.1 heq.symm]
    rfl
  | cons x xs ih =>
    obtain ⟨y, ys, rfl, hy, hys⟩ := List.map_eq_cons_iff.1 heq.symm
    have hhead : g' x = h' y := hp x List.mem_cons_self y List.mem_cons_self hy.symm
    have htail : xs.map g' = ys.map h' := by
      apply ih _ hys.symm
      intro x hx y hy
      exact hp x (List.mem_cons_of_mem _ hx) y (List.mem_cons_of_mem _ hy)
    rw [List.map_cons, List.map_cons, hhead, htail]

/-- Formulas that are equal over some atoms are equal over others if their atoms are. -/
theorem map_eq_map_of_atoms {δ : Type*} {g : α → γ} {h : β → γ} {g' : α → δ}
    {h' : β → δ} {F : Formula α} {G : Formula β} (heq : F.map g = G.map h)
    (hp : ∀ a ∈ F.atoms, ∀ b ∈ G.atoms, g a = h b → g' a = h' b) : F.map g' = G.map h' := by
  induction F using Formula.induction generalizing G with
  | atom a =>
    cases G with
    | atom b =>
      have := hp a List.mem_cons_self b List.mem_cons_self (Formula.atom.inj heq)
      rw [map_atom, map_atom, this]
    | group c parts =>
      rw [map_group] at heq
      cases heq
  | group c parts ih =>
    cases G with
    | atom b =>
      rw [map_group] at heq
      cases heq
    | group d parts' =>
      rw [map_group, map_group] at heq ⊢
      obtain ⟨rfl, hparts⟩ := Formula.group.inj heq
      have hparts' : parts.map (map g') = parts'.map (map h') := by
        apply map_parts_eq _ hparts
        intro x hx y hy hxy
        apply ih x hx hxy
        intro a ha b hb
        exact hp a (mem_atoms_group hx ha) b (mem_atoms_group hy hb)
      rw [hparts']

/-- Formulas that are equal over two kinds of atoms are equal over what these determine. -/
theorem map_eq_map_of_both {δ : Type*} {f : α → β} {g : α → γ} {h : α → δ} {F G : Formula α}
    (hf : F.map f = G.map f) (hg : F.map g = G.map g)
    (hh : ∀ a b, f a = f b → g a = g b → h a = h b) : F.map h = G.map h := by
  induction F using Formula.induction generalizing G with
  | atom a =>
    cases G with
    | atom b =>
      rw [map_atom, map_atom, hh a b (Formula.atom.inj hf) (Formula.atom.inj hg)]
    | group c parts =>
      rw [map_group] at hf
      cases hf
  | group c parts ih =>
    cases G with
    | atom b =>
      rw [map_group] at hf
      cases hf
    | group d parts' =>
      rw [map_group, map_group] at hf hg ⊢
      obtain ⟨rfl, hfparts⟩ := Formula.group.inj hf
      obtain ⟨-, hgparts⟩ := Formula.group.inj hg
      have hboth : parts.map (fun x => (x.map f, x.map g)) =
          parts'.map (fun x => (x.map f, x.map g)) := by
        rw [← List.zip_map', hfparts, hgparts, List.zip_map']
      have hparts : parts.map (map h) = parts'.map (map h) := by
        apply map_parts_eq _ hboth
        intro x hx y _ hxy
        obtain ⟨hxf, hxg⟩ := Prod.mk.inj hxy
        exact ih x hx hxf hxg
      rw [hparts]

theorem exists_atoms_of_map_parts {f : α → β} {parts : List (Formula α)} {xs : List β}
    (h : parts.map (map f) = xs.map .atom) :
    ∃ ys : List α, parts = ys.map .atom ∧ ys.map f = xs := by
  induction xs generalizing parts with
  | nil => exact ⟨[], List.map_eq_nil_iff.1 h, rfl⟩
  | cons x xs ih =>
    obtain ⟨part, parts, rfl, hpart, hparts⟩ := List.map_eq_cons_iff.1 h
    obtain ⟨ys, rfl, rfl⟩ := ih hparts
    cases part with
    | atom a => exact ⟨a :: ys, rfl, congrArg (· :: _) (Formula.atom.inj hpart)⟩
    | group c parts =>
      rw [map_group] at hpart
      cases hpart

/-- A formula that becomes a join of atoms is one. -/
theorem exists_atoms_of_map_eq_join {f : α → β} {c : Connective} {F : Formula α} {xs : List β}
    (h : F.map f = join c (xs.map .atom)) :
    ∃ ys : List α, F = join c (ys.map .atom) ∧ ys.map f = xs := by
  cases F with
  | atom a =>
    match xs with
    | [x] => exact ⟨[a], rfl, congrArg (fun x => [x]) (Formula.atom.inj h)⟩
    | [] => cases h
    | _ :: _ :: _ => cases h
  | group d parts =>
    rw [map_group] at h
    have hgroup : join c (xs.map .atom) = .group c (xs.map .atom) := by
      match xs with
      | [x] => cases h
      | [] => rfl
      | _ :: _ :: _ => rfl
    rw [hgroup] at h
    obtain ⟨rfl, hparts⟩ := Formula.group.inj h
    obtain ⟨ys, rfl, rfl⟩ := exists_atoms_of_map_parts hparts
    refine ⟨ys, ?_, rfl⟩
    match ys with
    | [y] => cases hgroup
    | [] => rfl
    | _ :: _ :: _ => rfl

/-! ### Traversals -/

theorem traverse_atom {ε : Type} (f : α → Except ε β) (a : α) :
    (Formula.atom a).traverse f = (f a).map .atom := rfl

theorem traverse_group {ε : Type} (f : α → Except ε β) (c : Connective)
    (parts : List (Formula α)) :
    (Formula.group c parts).traverse f = ((parts.map (traverse f)).mapM id).map (.group c) :=
  fold_group ..

/-- A traversal succeeds if `f` does at each atom, and replaces the atoms by its results. -/
theorem traverse_eq_ok_iff {ε : Type} {f : α → Except ε β} {F : Formula α} {G : Formula β} :
    F.traverse f = .ok G ↔ F.map f = G.map .ok := by
  induction F using Formula.induction generalizing G with
  | atom a =>
    rw [traverse_atom, map_atom, map_eq_ok]
    constructor
    · rintro ⟨b, hb, rfl⟩
      rw [hb, map_atom]
    · intro h
      cases G with
      | atom b => exact ⟨b, Formula.atom.inj h, rfl⟩
      | group c parts =>
        rw [map_group] at h
        cases h
  | group c parts ih =>
    rw [traverse_group, map_group, map_eq_ok]
    constructor
    · rintro ⟨parts', hparts, rfl⟩
      have hid : parts.map (traverse f) = parts'.map .ok := by
        rw [← mapM_eq_ok.1 hparts, List.map_id]
      have hmap : parts.map (map f) = parts'.map (map .ok) := by
        apply map_parts_eq _ hid
        intro x hx y _
        exact (ih x hx).1
      rw [map_group, hmap]
    · intro h
      cases G with
      | atom b => cases h
      | group d parts' =>
        rw [map_group] at h
        obtain ⟨rfl, hparts⟩ := Formula.group.inj h
        have hid : parts.map (traverse f) = parts'.map .ok := by
          apply map_parts_eq _ hparts
          intro x hx y _
          exact (ih x hx).2
        refine ⟨parts', mapM_eq_ok.2 ?_, rfl⟩
        rw [List.map_id, hid]

theorem traverse_group_mapM {ε : Type} (f : α → Except ε β) (c : Connective)
    (parts : List (Formula α)) :
    (Formula.group c parts).traverse f = (parts.mapM (traverse f)).map (.group c) := by
  rw [traverse_group, List.mapM_map, Function.id_comp]

theorem traverse_join {ε : Type} (f : α → Except ε β) (c : Connective) (parts : List (Formula α)) :
    (join c parts).traverse f = (parts.mapM (traverse f)).map (join c) := by
  match parts with
  | [] => rfl
  | [only] =>
    rw [join, List.mapM_cons, List.mapM_nil]
    cases only.traverse f <;> rfl
  | first :: second :: rest =>
    rw [join_of_length (by simp), traverse_group_mapM]
    cases h : (first :: second :: rest).mapM (traverse f) with
    | error e => rfl
    | ok parts' =>
      have hlength : 2 ≤ parts'.length := by
        have := congrArg List.length (mapM_eq_ok.1 h)
        rw [List.length_map, List.length_map] at this
        rw [← this]
        simp
      rw [Except.map, Except.map, join_of_length hlength]

/-- A traversal of changed atoms fails as that of the atoms does, with the error that goes with the
change. -/
theorem traverse_map {γ : Type v} {ε ε' : Type} {f : α → Except ε β} {f' : γ → Except ε' β} {g : α → γ}
    {move : ε → ε'} {F : Formula α} (h : ∀ a ∈ F.atoms, f' (g a) = (f a).mapError move) :
    (F.map g).traverse f' = (F.traverse f).mapError move := by
  induction F using Formula.induction with
  | atom a =>
    rw [map_atom, traverse_atom, traverse_atom, h a List.mem_cons_self]
    cases f a <;> rfl
  | group c parts ih =>
    have hparts : (parts.map (map g)).mapM (traverse f') =
        (parts.mapM (traverse f)).mapError move := by
      apply mapM_map_mapError
      intro part hp
      apply ih part hp
      intro a ha
      exact h a (mem_atoms_group hp ha)
    rw [map_group, traverse_group_mapM, traverse_group_mapM, hparts]
    cases parts.mapM (traverse f) <;> rfl

theorem traverse_map_eq {γ : Type v} {ε : Type} {f : α → Except ε β} {f' : γ → Except ε β} {g : α → γ}
    {F : Formula α} (h : ∀ a ∈ F.atoms, f' (g a) = f a) : (F.map g).traverse f' = F.traverse f := by
  have hmove : ∀ a ∈ F.atoms, f' (g a) = (f a).mapError id := by
    intro a ha
    rw [h a ha, mapError_id]
  rw [traverse_map hmove, mapError_id]

/-- The atoms of what a traversal gives are the results for the atoms. -/
theorem atoms_traverse {β : Type u} {ε : Type} (f : α → Except ε β) (F : Formula α) :
    (F.traverse f).map atoms = F.atoms.mapM f := by
  induction F using Formula.induction with
  | atom a =>
    rw [traverse_atom, atoms_atom, List.mapM_cons, List.mapM_nil]
    cases f a <;> rfl
  | group c parts ih =>
    have hparts : (parts.mapM (traverse f)).map (List.flatMap atoms) =
        (parts.flatMap atoms).mapM f := by
      clear c
      induction parts with
      | nil => rfl
      | cons part parts ihparts =>
        obtain ⟨hpart, hrest⟩ := List.forall_mem_cons.1 ih
        rw [List.flatMap_cons, List.mapM_append, ← hpart, ← ihparts hrest, List.mapM_cons]
        cases part.traverse f with
        | error e => rfl
        | ok G => cases parts.mapM (traverse f) <;> rfl
    rw [traverse_group_mapM, atoms_group, ← hparts]
    cases parts.mapM (traverse f) with
    | error e => rfl
    | ok parts' => exact congrArg Except.ok (atoms_group c parts')

/-- A traversal fails as `f` does at the first atom where it fails. -/
theorem traverse_eq_error_iff {β : Type u} {ε : Type} {f : α → Except ε β} {F : Formula α} {e : ε} :
    F.traverse f = .error e ↔ ∃ front a back, F.atoms = front ++ a :: back ∧
      (∀ b ∈ front, ∃ y, f b = .ok y) ∧ f a = .error e := by
  rw [← map_eq_error (f := atoms), atoms_traverse, mapM_eq_error]

/-- A traversal succeeds if one does that fails wherever it fails. -/
theorem exists_traverse {β β' : Type u} {ε ε' : Type} {f : α → Except ε β} {f' : α → Except ε' β'}
    {F : Formula α} {G : Formula β} (h : F.traverse f = .ok G)
    (hatoms : ∀ a ∈ F.atoms, ∀ b, f a = .ok b → ∃ b', f' a = .ok b') :
    ∃ G', F.traverse f' = .ok G' := by
  cases h' : F.traverse f' with
  | ok G' => exact ⟨G', rfl⟩
  | error e =>
    obtain ⟨front, a, back, hatom, -, ha⟩ := traverse_eq_error_iff.1 h'
    have hmem : a ∈ F.atoms := by
      rw [hatom]
      exact List.mem_append_right _ List.mem_cons_self
    have hresults : F.atoms.mapM f = .ok G.atoms := by rw [← atoms_traverse, h]; rfl
    have hresult := List.mem_map_of_mem (f := f) hmem
    rw [mapM_eq_ok.1 hresults] at hresult
    obtain ⟨b, -, hb⟩ := List.mem_map.1 hresult
    obtain ⟨b', hb'⟩ := hatoms a hmem b hb.symm
    rw [ha] at hb'
    cases hb'

/-! ### Truth -/

theorem holds_evaluateAll (test : α → Bool) (parts : List (Formula α)) :
    (evaluateAll test parts).holds = parts.all fun part => (part.evaluate test).holds := by
  induction parts with
  | nil => rfl
  | cons part parts ih =>
    rw [evaluateAll, List.all_cons, ← ih]
    cases h : (part.evaluate test).holds with
    | false => simp [h]
    | true => simp [Outcome.after]

theorem holds_evaluateAny (test : α → Bool) (parts : List (Formula α)) :
    (evaluateAny test parts).holds = parts.any fun part => (part.evaluate test).holds := by
  induction parts with
  | nil => rfl
  | cons part parts ih =>
    rw [evaluateAny, List.any_cons, ← ih]
    cases h : (part.evaluate test).holds with
    | true => simp [h]
    | false => simp [Outcome.after]

theorem holds_join_and (test : α → Bool) (parts : List (Formula α)) :
    ((join .and parts).evaluate test).holds = parts.all fun part => (part.evaluate test).holds := by
  match parts with
  | [] => rfl
  | [only] => rw [join, List.all_cons, List.all_nil, Bool.and_true]
  | first :: second :: rest =>
    rw [join_of_length (by simp), evaluate, holds_evaluateAll]

theorem holds_join_or (test : α → Bool) (parts : List (Formula α)) :
    ((join .or parts).evaluate test).holds = parts.any fun part => (part.evaluate test).holds := by
  match parts with
  | [] => rfl
  | [only] => rw [join, List.any_cons, List.any_nil, Bool.or_false]
  | first :: second :: rest =>
    rw [join_of_length (by simp), evaluate, holds_evaluateAny]

/-! ### Agreement -/

mutual

theorem agrees_self {same : α → α → Bool} : ∀ {F : Formula α}, (∀ a ∈ F.atoms, same a a) →
    F.agrees same F
  | .atom a, h => h a List.mem_cons_self
  | .group c parts, h => by
    rw [agrees, decide_eq_true rfl, Bool.true_and]
    apply agreesAll_self
    intro part hp a ha
    exact h a (mem_atoms_group hp ha)

theorem agreesAll_self {same : α → α → Bool} : ∀ {parts : List (Formula α)},
    (∀ part ∈ parts, ∀ a ∈ part.atoms, same a a) → agreesAll same parts parts
  | [], _ => rfl
  | part :: parts, h => by
    obtain ⟨hp, hparts⟩ := List.forall_mem_cons.1 h
    rw [agreesAll, agrees_self hp, agreesAll_self hparts]
    rfl

end

end FilterQuery.Formula
