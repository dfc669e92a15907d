import FilterQuery.Proofs.Predicate.Places
import FilterQuery.Proofs.Predicate.Trace

/-!
# How high queries are

Parentheses are limited, but each pair of them may hold a group of alternatives whose parts are groups of
items. So the limit bounds how many groups stand one in another.

* `Formula.IsBounded` : a bound for the groups on the ways from the root to the atoms;
* `IsItem.height_le`, `IsConjunction.height_le`, `IsAlternatives.height_le` : the groups in what is read
  with some number of parentheses open at once;
* `Query.deepest` : queries with as many groups as their parentheses allow;
* `Query.groups_are_bounded` : the bound for all queries and their predicates, which some reach.
-/

set_option autoImplicit false

namespace FilterQuery

namespace Formula

universe u
variable {α : Type u} {f g : Formula α} {n : Nat} {address : List Nat}

/-! ### Groups on the way to an atom -/

/-- At most `n` groups stand on the way from the root to each atom, and each group has two parts or
more. -/
structure IsBounded (n : Nat) (f : Formula α) : Prop where
  length_le : ∀ address a, f.part? address = some (.atom a) → address.length ≤ n
  two_le : ∀ address c parts, f.part? address = some (.group c parts) → 2 ≤ parts.length

theorem height_group_le_iff {c : Connective} {parts : List (Formula α)} :
    (Formula.group c parts).height ≤ n + 1 ↔ ∀ part ∈ parts, part.height ≤ n := by
  rw [height_group, Nat.add_le_add_iff_right]
  induction parts with
  | nil => simp
  | cons part parts ih =>
    rw [List.map_cons, List.foldr_cons, Nat.max_le, ih, List.forall_mem_cons]

/-- A join adds one group, or none. -/
theorem height_join_le (c : Connective) {parts : List (Formula α)} (hne : parts ≠ [])
    (h : ∀ part ∈ parts, part.height ≤ n) : (join c parts).height ≤ n + 1 := by
  rcases join_cases c hne with ⟨only, rfl, hj⟩ | ⟨-, hj⟩
  · rw [hj]
    exact (h only (List.mem_singleton_self _)).trans (Nat.le_succ n)
  · rw [hj]
    exact height_group_le_iff.2 h

/-- An address that goes on leads into one of the parts of a group. -/
theorem exists_of_part?_cons {i : Nat} (h : f.part? (i :: address) = some g) :
    ∃ c parts part, f = .group c parts ∧ part ∈ parts ∧ part.part? address = some g := by
  cases f with
  | atom a => cases h
  | group c parts =>
    obtain ⟨part, hpart, hg⟩ := Option.bind_eq_some_iff.1 h
    exact ⟨c, parts, part, rfl, List.mem_of_getElem? hpart, hg⟩

/-- The groups above a part and those in it are on one way. -/
theorem length_add_height_le (h : f.part? address = some g) :
    address.length + g.height ≤ f.height := by
  induction address generalizing f with
  | nil =>
    cases h
    exact (Nat.zero_add _).le
  | cons i address ih =>
    obtain ⟨c, parts, part, rfl, hpart, hg⟩ := exists_of_part?_cons h
    have hbelow := ih hg
    have habove := height_group_le_iff.1 (height_group c parts).le part hpart
    rw [height_group, List.length_cons]
    omega

theorem isBranching_of_part? (hf : f.IsBranching) (h : f.part? address = some g) :
    g.IsBranching := by
  induction address generalizing f with
  | nil =>
    cases h
    exact hf
  | cons i address ih =>
    obtain ⟨c, parts, part, rfl, hpart, hg⟩ := exists_of_part?_cons h
    exact ih (((isBranching_group c parts).1 hf).2 part hpart) hg

/-- The height is a bound. -/
theorem isBounded_of_height (hf : f.IsBranching) (h : f.height ≤ n) : f.IsBounded n where
  length_le address a ha := by
    have hheight := length_add_height_le ha
    rw [height_atom] at hheight
    exact hheight.trans h
  two_le address c parts hg := ((isBranching_group c parts).1 (isBranching_of_part? hf hg)).1

/-- One of the parts of a group is as high as all of them. -/
theorem exists_height_group {c : Connective} {parts : List (Formula α)} (hne : parts ≠ []) :
    ∃ part ∈ parts, (Formula.group c parts).height = part.height + 1 := by
  by_contra hnone
  simp only [not_exists, not_and] at hnone
  have hle := height_group_le_iff.1 (height_group c parts).le
  obtain ⟨first, hfirst⟩ := List.exists_mem_of_ne_nil parts hne
  cases hn : (parts.map height).foldr max 0 with
  | zero =>
    have hzero := hle first hfirst
    have hheight := hnone first hfirst
    rw [height_group] at hheight
    omega
  | succ n =>
    have hlower : (Formula.group c parts).height ≤ n + 1 := by
      apply height_group_le_iff.2
      intro part hpart
      have hpart_le := hle part hpart
      have hheight := hnone part hpart
      rw [height_group] at hheight
      omega
    rw [height_group] at hlower
    omega

/-- The height is the number of groups above some atom. -/
theorem exists_length_eq_height (hf : f.IsBranching) :
    ∃ address a, f.part? address = some (.atom a) ∧ address.length = f.height := by
  induction f using Formula.induction with
  | atom a => exact ⟨[], a, rfl, rfl⟩
  | group c parts ih =>
    obtain ⟨hlength, hparts⟩ := (isBranching_group c parts).1 hf
    have hne : parts ≠ [] := List.ne_nil_of_length_pos (Nat.lt_of_lt_of_le Nat.two_pos hlength)
    obtain ⟨part, hpart, hheight⟩ := exists_height_group (c := c) hne
    obtain ⟨address, a, ha, haddress⟩ := ih part hpart (hparts part hpart)
    obtain ⟨i, hi⟩ := List.getElem?_of_mem hpart
    refine ⟨i :: address, a, ?_, ?_⟩
    · rw [part?, hi]
      exact ha
    · rw [List.length_cons, haddress, hheight]

end Formula

/-! ### Parentheses and groups -/

namespace Grammar

mutual

/-- Parentheses add at most two groups: the alternatives in them, and the items of one of these. -/
theorem IsItem.height_le {depth : Nat} {tokens : List Token} {q : Query} :
    IsItem depth tokens q → q.height ≤ 2 * depth
  | .comparison _ => Nat.zero_le _
  | .group _ ha _ => Formula.height_join_le .or ha.ne_nil ha.height_le

theorem IsConjunction.height_le {depth : Nat} {tokens : List Token} {parts : List Query} :
    IsConjunction depth tokens parts → ∀ part ∈ parts, part.height ≤ 2 * depth
  | .one h => List.forall_mem_singleton.2 h.height_le
  | .and h _ hc => by
    refine List.forall_mem_cons.2 ⟨?_, ?_⟩
    · have := h.height_le
      omega
    · intro part hpart
      have := hc.height_le part hpart
      omega

theorem IsAlternatives.height_le {depth : Nat} {tokens : List Token} {parts : List Query} :
    IsAlternatives depth tokens parts → ∀ part ∈ parts, part.height ≤ 2 * depth + 1
  | .one h => List.forall_mem_singleton.2 (Formula.height_join_le .and h.ne_nil h.height_le)
  | .or h _ ha => by
    refine List.forall_mem_cons.2 ⟨?_, ?_⟩
    · have := Formula.height_join_le .and h.ne_nil h.height_le
      omega
    · intro part hpart
      have := ha.height_le part hpart
      omega

end

theorem IsQuery.height_le {tokens : List Token} {q : Query} (h : IsQuery tokens q) :
    q.height ≤ 2 * (maxGroups + 1) := by
  obtain ⟨depth, parts, ha, hdepth, rfl⟩ := h
  have := Formula.height_join_le .or ha.ne_nil ha.height_le
  omega

end Grammar

namespace Query
open Grammar Predicate

variable {text : String} {q : Query}

/-! ### Queries as high as their parentheses allow -/

/-- An alternative of two items in each pair of parentheses, also in the innermost. -/
def deepest : Nat → List Char
  | 0 => smallest ++ ',' :: (smallest ++ ';' :: smallest)
  | n + 1 => enclosed (deepest n)

theorem exists_writes_deepest (n : Nat) :
    ∃ d : Alternatives, Writes d.lexemes (deepest n) ∧ d.depth = n ∧
      d.formula.height = 2 * (n + 1) ∧ ∀ c ∈ d.formula.atoms, c = ⟨"a", .equal, ["1"]⟩ := by
  induction n with
  | zero =>
    obtain ⟨c, hc, hcomparison⟩ := exists_writes_smallest
    refine ⟨.or (.one (.comparison c)) (.one (.and (.comparison c) (.one (.comparison c)))),
      ?_, ?_, ?_, ?_⟩
    · rw [Alternatives.lexemes_or, Alternatives.lexemes_one, Conjunction.lexemes_and]
      exact hc.append (.cons (l := .comma) trivial
        (hc.append (.cons (l := .semicolon) trivial hc)))
    · simp only [Alternatives.depth, Conjunction.depth, Item.depth, Nat.max_self]
    · simp only [Alternatives.formula, Alternatives.formulas, Conjunction.formulas, Item.formula]
      rfl
    · simp [Alternatives.formula, Alternatives.formulas, Conjunction.formulas, Item.formula,
        Formula.join, hcomparison]
  | succ n ih =>
    obtain ⟨d, hd, hdepth, hheight, hatoms⟩ := ih
    obtain ⟨d', hd', hdepth', hheight', hatoms'⟩ := exists_writes_enclosed hd
    refine ⟨d', hd', by omega, by omega, ?_⟩
    intro c hc
    exact (hatoms' c hc).elim (hatoms c) id

theorem exists_ofText_deepest (n : Nat) (hn : n ≤ maxGroups) :
    ∃ q, ofText (String.ofList (deepest n)) = .ok q ∧ q.height = 2 * (n + 1) ∧
      ∀ a ∈ q.atoms, a.toComparison = ⟨"a", .equal, ["1"]⟩ := by
  obtain ⟨d, hd, hdepth, hheight, hatoms⟩ := exists_writes_deepest n
  obtain ⟨q, hq, hbare⟩ := Alternatives.Derives.exists_query
    ⟨Alternatives.munch_of_writes hd, hdepth.trans_le hn⟩
  refine ⟨q, hq, ?_, ?_⟩
  · rw [← hheight, ← hbare, bare, Formula.height_map]
  · intro a ha
    apply hatoms
    rw [← hbare, bare, Formula.atoms_map]
    exact List.mem_map_of_mem ha

theorem exists_compile_deepest [PatternSize] (hq : ofText text = .ok q)
    (hatoms : ∀ a ∈ q.atoms, a.toComparison = ⟨"a", .equal, ["1"]⟩) :
    ∃ p, q.compile smallSchema "T" {} = .ok p := by
  apply exists_compile_iff.2
  intro a ha
  let first : Placed := ⟨⟨"a", .equal, ["1"]⟩, ⟨0, 1⟩, ⟨1, 2⟩, [⟨3, 1⟩]⟩
  have hresolve : resolve smallSchema "T" "a" = .ok ⟨.string, false, []⟩ := by decide +kernel
  obtain ⟨c, hc⟩ : ∃ c, first.compile smallSchema "T" {} = .ok c :=
    ⟨⟨.parse "a", .equal, [.string "1"], .string, false, none⟩,
      Placed.compile_eq_ok_iff.2 ⟨_, hresolve, rfl, .values rfl rfl rfl⟩⟩
  have hcount : a.valueCount smallSchema "T" {} = first.valueCount smallSchema "T" {} :=
    Placed.valueCount_of_toComparison (hatoms a ha) (length_spans_of_ofText hq a ha).ge le_rfl
  have hcompile := Placed.compile_unplaced (hatoms a ha) hcount
  rw [hc] at hcompile
  exact ⟨c, mapError_eq_ok.1 hcompile⟩

/-! ### The bound -/

theorem height_le_of_ofText (h : ofText text = .ok q) : q.height ≤ 2 * (maxGroups + 1) := by
  obtain ⟨tokens, -, ht⟩ := ofText_eq_ok.1 h
  exact (isQuery_of_ofTokens ht).height_le

/-- What is compiled has the groups of what was read. -/
theorem height_eq_of_compile [PatternSize] {schema : Schema} {root : String} {options : Options}
    {p : Predicate} (h : q.compile schema root options = .ok p) : p.height = q.height := by
  rw [← Formula.height_map (fun _ => ()) p, shape_of_compile h, Formula.height_map]

theorem isBranching_of_compile [PatternSize] {schema : Schema} {root : String} {options : Options}
    {p : Predicate} (hq : q.IsBranching) (h : q.compile schema root options = .ok p) :
    p.IsBranching := by
  rw [← Formula.isBranching_map (fun _ => ()) p, shape_of_compile h, Formula.isBranching_map]
  exact hq

/-- However long a query is, no more than `2 * (maxGroups + 1)` groups stand on the way from its root to
any of its comparisons, or from the root of its predicate to any of the conditions, and each of them has
two parts or more. Some query has a comparison with as many groups above it, and so has its predicate. -/
theorem groups_are_bounded [PatternSize] :
    (∀ text q, ofText text = .ok q → q.IsBounded (2 * (maxGroups + 1)) ∧
      ∀ schema root options p, q.compile schema root options = .ok p →
        p.IsBounded (2 * (maxGroups + 1))) ∧
    ∃ text q schema root options p, ofText text = .ok q ∧
      q.compile schema root options = .ok p ∧
      (∃ address a, q.part? address = some (.atom a) ∧ address.length = 2 * (maxGroups + 1)) ∧
      ∃ address c, p.part? address = some (.atom c) ∧ address.length = 2 * (maxGroups + 1) := by
  constructor
  · intro text q hq
    have hbranching := isBranching_of_ofText hq
    have hheight := height_le_of_ofText hq
    refine ⟨Formula.isBounded_of_height hbranching hheight, ?_⟩
    intro schema root options p hp
    apply Formula.isBounded_of_height (isBranching_of_compile hbranching hp)
    rwa [height_eq_of_compile hp]
  · obtain ⟨q, hq, hheight, hatoms⟩ := exists_ofText_deepest maxGroups le_rfl
    obtain ⟨p, hp⟩ := exists_compile_deepest hq hatoms
    have hbranching := isBranching_of_ofText hq
    refine ⟨_, q, smallSchema, "T", {}, p, hq, hp, ?_, ?_⟩
    · rw [← hheight]
      exact Formula.exists_length_eq_height hbranching
    · rw [← hheight, ← height_eq_of_compile hp]
      exact Formula.exists_length_eq_height (isBranching_of_compile hbranching hp)

end Query

end FilterQuery
