import FilterQuery.Proofs.Formula
import FilterQuery.Record
import Mathlib.Data.List.Lex

/-!
# Which conditions are tested

Evaluation tests conditions from left to right and leaves out those that cannot matter any more.

* `Formula.part?`, `Formula.occurrences` : the parts of a formula by their addresses, and its atoms with
  theirs, so that an atom that stands at two places is met twice;
* `Formula.IsReached` : nothing that stands before an address decides a group around it;
* `Formula.trace_evaluate` : the atoms that are reached are tested, and `Formula.evaluate_congr`, that
  the tests made decide the outcome;
* `Predicate.found_searchFrom`, `Predicate.trace_searchFrom` : what one pass through records delivers;
* `Predicate.tests_in_order` : the same for predicates on records, one record or many.
-/

set_option autoImplicit false

namespace FilterQuery

/-- The truth of a part after which the next part of a group is tested. -/
def Connective.goesOn : Connective → Bool
  | and => true
  | or => false

namespace Formula

universe u
variable {α : Type u}

/-! ### Occurrences -/

/-- The part at an address, which says the place of a part in the root, then the place of a part in that
part, and so on. -/
def part? : (address : List Nat) → Formula α → Option (Formula α)
  | [], f => some f
  | _ :: _, .atom _ => none
  | i :: address, .group _ parts => parts[i]?.bind (part? address)

/-- The atoms with their addresses, from left to right. -/
def occurrences : Formula α → List (List Nat × α) :=
  fold (fun a => [([], a)]) fun _ parts =>
    parts.zipIdx.flatMap fun found => found.1.map fun o => (found.2 :: o.1, o.2)

@[simp] theorem occurrences_atom (a : α) : (Formula.atom a).occurrences = [([], a)] := rfl

@[simp] theorem occurrences_group (c : Connective) (parts : List (Formula α)) :
    (Formula.group c parts).occurrences =
      parts.zipIdx.flatMap fun found => found.1.occurrences.map fun o => (found.2 :: o.1, o.2) := by
  rw [occurrences, fold_group, List.zipIdx_map, List.flatMap_map]
  rfl

theorem map_snd_occurrences (f : Formula α) : f.occurrences.map Prod.snd = f.atoms := by
  induction f using Formula.induction with
  | atom a => rfl
  | group c parts ih =>
    have hparts : parts.zipIdx.flatMap (fun found => found.1.occurrences.map Prod.snd) =
        parts.zipIdx.flatMap fun found => found.1.atoms := by
      apply List.flatMap_congr
      intro found hfound
      exact ih found.1 (List.fst_mem_of_mem_zipIdx hfound)
    have hfst : (parts.zipIdx.map Prod.fst).flatMap atoms =
        parts.zipIdx.flatMap fun found => found.1.atoms := List.flatMap_map ..
    rw [List.zipIdx_map_fst] at hfst
    rw [occurrences_group, atoms_group, List.map_flatMap, hfst, ← hparts]
    simp only [List.map_map, Function.comp_def]

/-- The occurrences are the addresses at which an atom stands. -/
theorem mem_occurrences_iff {f : Formula α} {address : List Nat} {a : α} :
    (address, a) ∈ f.occurrences ↔ f.part? address = some (.atom a) := by
  induction f using Formula.induction generalizing address with
  | atom b => cases address <;> simp [part?, eq_comm]
  | group c parts ih =>
    rw [occurrences_group, List.mem_flatMap]
    constructor
    · rintro ⟨⟨part, i⟩, hfound, hmem⟩
      obtain ⟨⟨below, b⟩, hb, heq⟩ := List.mem_map.1 hmem
      cases heq
      have hpart := List.mk_mem_zipIdx_iff_getElem?.1 hfound
      rw [part?, hpart]
      exact (ih part (List.mem_of_getElem? hpart)).1 hb
    · intro h
      cases address with
      | nil => cases h
      | cons i address =>
        obtain ⟨part, hpart, hb⟩ := Option.bind_eq_some_iff.1 h
        have hmem := (ih part (List.mem_of_getElem? hpart)).2 hb
        exact ⟨(part, i), List.mk_mem_zipIdx_iff_getElem?.2 hpart,
          List.mem_map_of_mem (f := fun o => (i :: o.1, o.2)) hmem⟩

/-- The occurrences are in the order of their addresses. -/
theorem occurrences_ascending (f : Formula α) : f.occurrences.Pairwise fun o o' => o.1 < o'.1 := by
  induction f using Formula.induction with
  | atom a => exact List.pairwise_singleton _ _
  | group c parts ih =>
    rw [occurrences_group, List.pairwise_flatMap]
    constructor
    · intro found hfound
      rw [List.pairwise_map]
      apply (ih found.1 (List.fst_mem_of_mem_zipIdx hfound)).imp
      intro o o' h
      exact List.cons_lt_cons_iff.2 (.inr ⟨rfl, h⟩)
    · have hplaces : (parts.zipIdx.map Prod.snd).Pairwise (· < ·) := by
        rw [List.zipIdx_map_snd]
        exact List.pairwise_lt_range'
      apply (List.pairwise_map.1 hplaces).imp
      intro found found' hlt x hx y hy
      obtain ⟨o, -, rfl⟩ := List.mem_map.1 hx
      obtain ⟨o', -, rfl⟩ := List.mem_map.1 hy
      exact List.cons_lt_cons_iff.2 (.inl hlt)

/-! ### What is reached -/

/-- Tests come as far as an address: the parts that stand before it hold in each "and" around it, and do
not hold in each "or". -/
structure IsReached (test : α → Bool) (f : Formula α) (address : List Nat) : Prop where
  and : ∀ above i below parts, address = above ++ i :: below →
    f.part? above = some (.group .and parts) →
    ∀ sibling ∈ parts.take i, (sibling.evaluate test).holds = true
  or : ∀ above i below parts, address = above ++ i :: below →
    f.part? above = some (.group .or parts) →
    ∀ sibling ∈ parts.take i, (sibling.evaluate test).holds = false

variable {test : α → Bool}

theorem isReached_iff {f : Formula α} {address : List Nat} : f.IsReached test address ↔
    ∀ above i below c parts, address = above ++ i :: below → f.part? above = some (.group c parts) →
      ∀ sibling ∈ parts.take i, (sibling.evaluate test).holds = c.goesOn := by
  constructor
  · intro h above i below c parts
    cases c with
    | and => exact h.and above i below parts
    | or => exact h.or above i below parts
  · intro h
    exact ⟨fun above i below => h above i below .and, fun above i below => h above i below .or⟩

theorem isReached_nil (f : Formula α) : f.IsReached test [] := by
  rw [isReached_iff]
  intro above i below c parts h
  exact absurd h (by simp)

/-- One group more: the parts before the one with the address let tests go on. -/
theorem isReached_cons {c : Connective} {parts : List (Formula α)} {part : Formula α} {i : Nat}
    {address : List Nat} (hpart : parts[i]? = some part) :
    (Formula.group c parts).IsReached test (i :: address) ↔
      (∀ sibling ∈ parts.take i, (sibling.evaluate test).holds = c.goesOn) ∧
        part.IsReached test address := by
  rw [isReached_iff, isReached_iff]
  constructor
  · intro h
    refine ⟨h [] i address c parts rfl rfl, ?_⟩
    intro above j below d siblings haddress hd
    apply h (i :: above) j below d siblings (congrArg _ haddress)
    rw [part?, hpart]
    exact hd
  · rintro ⟨hhere, hinside⟩ above j below d siblings haddress hd
    cases above with
    | nil =>
      obtain ⟨rfl, -⟩ := List.cons.inj haddress
      obtain ⟨rfl, rfl⟩ := Formula.group.inj (Option.some.inj hd)
      exact hhere
    | cons i' above =>
      obtain ⟨rfl, hbelow⟩ := List.cons.inj haddress
      rw [part?, hpart] at hd
      exact hinside above j below d siblings hbelow hd

/-! ### What is tested -/

theorem evaluate_group_nil (test : α → Bool) (c : Connective) :
    (Formula.group c ([] : List (Formula α))).evaluate test = ⟨c.goesOn, []⟩ := by
  cases c <;> rfl

/-- A group is its first part, and the group of the others if that lets tests go on. -/
theorem evaluate_group_cons (test : α → Bool) (c : Connective) (part : Formula α)
    (parts : List (Formula α)) : (Formula.group c (part :: parts)).evaluate test =
      if (part.evaluate test).holds = c.goesOn then
        (part.evaluate test).after ((Formula.group c parts).evaluate test)
      else part.evaluate test := by
  cases c with
  | and => rfl
  | or =>
    rw [evaluate, evaluateAny, Connective.goesOn]
    cases (part.evaluate test).holds <;> rfl

theorem trace_group (test : α → Bool) (c : Connective) (parts : List (Formula α)) :
    ((Formula.group c parts).evaluate test).trace = parts.zipIdx.flatMap fun found =>
      if (parts.take found.2).all fun sibling => (sibling.evaluate test).holds = c.goesOn then
        (found.1.evaluate test).trace
      else [] := by
  induction parts with
  | nil => cases c <;> rfl
  | cons part parts ih =>
    rw [evaluate_group_cons, List.zipIdx_cons', List.flatMap_cons, List.flatMap_map]
    simp only [List.take_zero, List.all_nil, if_true, List.take_succ_cons, List.all_cons, Prod.map]
    by_cases hgoes : (part.evaluate test).holds = c.goesOn
    · rw [if_pos hgoes, Outcome.after, ih]
      simp [hgoes]
    · simp [hgoes]

/-- The atoms that are reached are tested, in order. -/
theorem trace_evaluate [∀ (f : Formula α) (address : List Nat), Decidable (f.IsReached test address)]
    (f : Formula α) :
    (f.evaluate test).trace =
      (f.occurrences.filter fun o => f.IsReached test o.1).map fun o => (o.2, test o.2) := by
  induction f using Formula.induction with
  | atom a =>
    rw [occurrences_atom, List.filter_cons_of_pos (by simpa using isReached_nil _)]
    rfl
  | group c parts ih =>
    rw [trace_group, occurrences_group, List.filter_flatMap, List.map_flatMap]
    apply List.flatMap_congr
    intro found hfound
    have hpart := List.mem_zipIdx_iff_getElem?.1 hfound
    have hsiblings : (∀ sibling ∈ parts.take found.2, (sibling.evaluate test).holds = c.goesOn) ↔
        (parts.take found.2).all (fun sibling => (sibling.evaluate test).holds = c.goesOn) = true := by
      simp
    have hreached (o : List Nat × α) :
        (group c parts).IsReached test (found.2 :: o.1) ↔
          (∀ sibling ∈ parts.take found.2, (sibling.evaluate test).holds = c.goesOn) ∧
            found.1.IsReached test o.1 := isReached_cons hpart
    rw [List.filter_map, List.map_map, ih found.1 (List.fst_mem_of_mem_zipIdx hfound)]
    simp only [Function.comp_def, hreached, hsiblings]
    split
    · next hgoes => simp only [hgoes, true_and]
    · next hstops => simp [hstops]

/-- Where the tests that are made give the same results, so does the formula. -/
theorem evaluate_congr {test' : α → Bool} {f : Formula α}
    (h : ∀ entry ∈ (f.evaluate test).trace, test' entry.1 = entry.2) :
    f.evaluate test' = f.evaluate test := by
  induction f using Formula.induction with
  | atom a =>
    have ha : test' a = test a := h (a, test a) List.mem_cons_self
    rw [evaluate, evaluate, ha]
  | group c parts ih =>
    induction parts with
    | nil => rw [evaluate_group_nil, evaluate_group_nil]
    | cons part parts ihparts =>
      obtain ⟨ihpart, ih⟩ := List.forall_mem_cons.1 ih
      rw [evaluate_group_cons] at h
      rw [evaluate_group_cons, evaluate_group_cons]
      split at h
      · next hgoes =>
        obtain ⟨hpart, hparts⟩ := List.forall_mem_append.1 h
        rw [ihpart hpart, ihparts ih hparts]
      · next hstops => rw [ihpart h, if_neg hstops, if_neg hstops]

end Formula

/-! ### Records -/

namespace Predicate

variable {ρ : Type} [Record ρ]

/-- A search finds the records on which the predicate holds, with their places. -/
theorem found_searchFrom (p : Predicate) (place : Nat) (records : List ρ) :
    (searchFrom p place records).found =
      (records.zipIdx place).filter fun x => (evaluate p x.1).holds := by
  induction records generalizing place with
  | nil => rfl
  | cons r records ih =>
    rw [List.zipIdx_cons, List.filter_cons, ← ih]
    rfl

/-- A search tests each record in turn. -/
theorem trace_searchFrom (p : Predicate) (place : Nat) (records : List ρ) :
    (searchFrom p place records).trace = (records.map fun r => (evaluate p r).trace).flatten := by
  induction records generalizing place with
  | nil => rfl
  | cons r records ih =>
    rw [List.map_cons, List.flatten_cons, ← ih (place + 1)]
    rfl

theorem find_eq_filter (p : Predicate) (records : List ρ) :
    find p records = records.filter fun r => (evaluate p r).holds := by
  have hfst : records.filter (fun r => (evaluate p r).holds) =
      (records.zipIdx.map Prod.fst).filter fun r => (evaluate p r).holds := by
    rw [List.zipIdx_map_fst]
  rw [find, found_searchFrom, hfst, List.filter_map]
  rfl

theorem findIndexes_eq (p : Predicate) (records : List ρ) :
    findIndexes p records =
      (records.zipIdx.filter fun x => (evaluate p x.1).holds).map Prod.snd := by
  rw [findIndexes, found_searchFrom]

theorem mem_findIndexes_iff {p : Predicate} {records : List ρ} {i : Nat} :
    i ∈ findIndexes p records ↔ ∃ r, records[i]? = some r ∧ (evaluate p r).holds := by
  rw [findIndexes_eq, List.mem_map]
  constructor
  · rintro ⟨⟨r, i⟩, hmem, rfl⟩
    obtain ⟨hplace, hholds⟩ := List.mem_filter.1 hmem
    exact ⟨r, List.mk_mem_zipIdx_iff_getElem?.1 hplace, hholds⟩
  · rintro ⟨r, hr, hholds⟩
    exact ⟨(r, i), List.mem_filter.2 ⟨List.mk_mem_zipIdx_iff_getElem?.2 hr, hholds⟩, rfl⟩

theorem findIndexes_ascending (p : Predicate) (records : List ρ) :
    (findIndexes p records).Pairwise (· < ·) := by
  have hplaces : (records.zipIdx.map Prod.snd).Pairwise (· < ·) := by
    rw [List.zipIdx_map_snd]
    exact List.pairwise_lt_range'
  rw [findIndexes_eq]
  exact hplaces.sublist (List.filter_sublist.map Prod.snd)

/-- The records that are found are those at the places that are found. -/
theorem find_eq_filterMap (p : Predicate) (records : List ρ) :
    find p records = (findIndexes p records).filterMap (records[·]?) := by
  rw [find, findIndexes, List.filterMap_map, ← List.filterMap_eq_map]
  apply List.filterMap_congr
  intro x hx
  rw [found_searchFrom] at hx
  exact (List.mem_zipIdx_iff_getElem?.1 (List.mem_of_mem_filter hx)).symm

/-- On a record the conditions at some addresses are tested, from left to right, each as often as it is
reached and with its own result: those before which each part of an "and" around them holds and no part
of an "or". Records on which these conditions give the same results are not told apart. A search tests
each record in turn, and finds the records on which the predicate holds, in order. -/
theorem tests_in_order :
    (∀ p : Predicate, p.occurrences.map Prod.snd = p.atoms ∧
      (p.occurrences.Pairwise fun o o' => o.1 < o'.1) ∧
      ∀ address c, (address, c) ∈ p.occurrences ↔ p.part? address = some (.atom c)) ∧
    ∀ (ρ : Type) [Record ρ] (p : Predicate),
      (∀ record : ρ, ∃ tested : List (List Nat × Condition), tested.Sublist p.occurrences ∧
        (∀ o ∈ p.occurrences, o ∈ tested ↔ p.IsReached (·.holdsOn record) o.1) ∧
        (evaluate p record).trace = tested.map fun o => (o.2, o.2.holdsOn record)) ∧
      (∀ (record : ρ) (ρ' : Type) [Record ρ'] (record' : ρ'),
        (∀ entry ∈ (evaluate p record).trace, entry.1.holdsOn record' = entry.2) →
        evaluate p record' = evaluate p record) ∧
      ∀ records : List ρ, trace p records = (records.map fun r => (evaluate p r).trace).flatten ∧
        find p records = (records.filter fun r => (evaluate p r).holds) ∧
        find p records = (findIndexes p records).filterMap (records[·]?) ∧
        (findIndexes p records).Pairwise (· < ·) ∧
        ∀ i, i ∈ findIndexes p records ↔ ∃ r, records[i]? = some r ∧ (evaluate p r).holds := by
  refine ⟨fun p => ⟨p.map_snd_occurrences, p.occurrences_ascending,
    fun address c => Formula.mem_occurrences_iff⟩, fun ρ _ p => ⟨?_, ?_, ?_⟩⟩
  · intro record
    classical
    have htrace : (evaluate p record).trace =
        (p.occurrences.filter fun o => p.IsReached (·.holdsOn record) o.1).map
          fun o => (o.2, o.2.holdsOn record) := p.trace_evaluate
    refine ⟨_, List.filter_sublist, fun o ho => ?_, htrace⟩
    rw [List.mem_filter, and_iff_right ho, decide_eq_true_eq]
  · intro record ρ' _ record' h
    exact Formula.evaluate_congr h
  · intro records
    exact ⟨trace_searchFrom p 0 records, find_eq_filter p records, find_eq_filterMap p records,
      findIndexes_ascending p records, fun i => mem_findIndexes_iff⟩

/-- A test for the number one. -/
def oneAt (name : String) : Condition := ⟨.parse name, .equal, [.integer 1], .integer, false, none⟩

/-- The predicate `(a==1;b==1),c==1`. -/
def eitherPair : Predicate :=
  .group .or [.group .and [.atom (oneAt "a"), .atom (oneAt "b")], .atom (oneAt "c")]

/-- Where the first part holds, the last condition is not tested and makes no difference. -/
theorem tests_in_order_unreached :
    let pair := [("a", Json.number (.integer 1)), ("b", Json.number (.integer 1))]
    let triple := Json.object (pair ++ [("c", .number (.integer 1))])
    evaluate eitherPair triple = evaluate eitherPair (Json.object pair) ∧
      ∃ tested : List (List Nat × Condition), tested.Sublist eitherPair.occurrences ∧
        ([1], oneAt "c") ∉ tested ∧
        (evaluate eitherPair triple).trace = tested.map fun o => (o.2, o.2.holdsOn triple) := by
  intro pair triple
  obtain ⟨hoccurrences, hrecords⟩ := tests_in_order
  obtain ⟨htested, hsame, -⟩ := hrecords Json eitherPair
  obtain ⟨tested, hsub, hreached, htrace⟩ := htested triple
  refine ⟨hsame (.object pair) Json triple (by decide +kernel), tested, hsub, ?_, htrace⟩
  have hlast : ([1], oneAt "c") ∈ eitherPair.occurrences :=
    ((hoccurrences eitherPair).2.2 [1] (oneAt "c")).2 rfl
  rw [hreached _ hlast]
  intro h
  have hfirst := h.or [] 1 [] _ rfl rfl _ List.mem_cons_self
  revert hfirst
  decide +kernel

end Predicate
end FilterQuery
