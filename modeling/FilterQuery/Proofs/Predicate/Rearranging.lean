import FilterQuery.Proofs.Predicate.Trace
import Mathlib.Logic.Relation

/-!
# Predicates that say the same in another form

The order in which parts stand, how often they do, and how equal connectives are nested decide which
conditions are tested, but not what comes of it.

* `Formula.Rearranges` : one change of this kind, anywhere in a formula;
* `Formula.holds_group_iff` : what a group says depends only on which parts there are;
* `Formula.Rearranges.holds_eq` : a change keeps the truth of a formula;
* `Predicate.holds_of_rearranged` : so do any number of changes, and the same records are found.
-/

set_option autoImplicit false

namespace FilterQuery

namespace Formula

universe u
variable {α : Type u} {f g : Formula α}

/-- One change of the form of a formula: the parts of a group in another order, a part of it once more, a
group inside a group of the same connective dissolved into it, or a group around the formula alone; and
each of these in one part of a group. -/
inductive Rearranges : Formula α → Formula α → Prop
  | permute {c : Connective} {parts parts' : List (Formula α)} : parts.Perm parts' →
      Rearranges (.group c parts) (.group c parts')
  | duplicate {c : Connective} {parts : List (Formula α)} {part : Formula α} : part ∈ parts →
      Rearranges (.group c parts) (.group c (part :: parts))
  | merge {c : Connective} {before inner after : List (Formula α)} :
      Rearranges (.group c (before ++ .group c inner :: after))
        (.group c (before ++ (inner ++ after)))
  | wrap {c : Connective} {f : Formula α} : Rearranges f (.group c [f])
  | inside {c : Connective} {before after : List (Formula α)} {f g : Formula α} : Rearranges f g →
      Rearranges (.group c (before ++ f :: after)) (.group c (before ++ g :: after))

/-- A group has the truth with which its connective goes on exactly if all its parts have it. -/
theorem holds_group_iff (test : α → Bool) (c : Connective) (parts : List (Formula α)) :
    ((Formula.group c parts).evaluate test).holds = c.goesOn ↔
      ∀ part ∈ parts, (part.evaluate test).holds = c.goesOn := by
  cases c with
  | and => rw [evaluate, holds_evaluateAll, Connective.goesOn, List.all_eq_true]
  | or =>
    rw [evaluate, holds_evaluateAny, Connective.goesOn, List.any_eq_false]
    simp only [Bool.not_eq_true]

theorem eq_of_eq_iff_eq {x y b : Bool} (h : x = b ↔ y = b) : x = y := by
  revert h
  cases x <;> cases y <;> cases b <;> decide

/-- Groups of one connective hold alike if all parts of one let it go on when all of the other do. -/
theorem holds_group_congr {test : α → Bool} {c : Connective} {parts parts' : List (Formula α)}
    (h : (∀ part ∈ parts, (part.evaluate test).holds = c.goesOn) ↔
      ∀ part ∈ parts', (part.evaluate test).holds = c.goesOn) :
    ((Formula.group c parts).evaluate test).holds =
      ((Formula.group c parts').evaluate test).holds := by
  rw [← holds_group_iff, ← holds_group_iff] at h
  exact eq_of_eq_iff_eq h

/-- A change of form keeps the truth. -/
theorem Rearranges.holds_eq (h : Rearranges f g) (test : α → Bool) :
    (f.evaluate test).holds = (g.evaluate test).holds := by
  induction h with
  | permute hperm =>
    apply holds_group_congr
    simp only [hperm.mem_iff]
  | duplicate hmem =>
    apply holds_group_congr
    rw [List.forall_mem_cons]
    exact ⟨fun hall => ⟨hall _ hmem, hall⟩, And.right⟩
  | merge =>
    apply holds_group_congr
    rw [List.forall_mem_append, List.forall_mem_append, List.forall_mem_cons, List.forall_mem_append,
      holds_group_iff]
  | @wrap c f =>
    have hgroup := holds_group_iff test c [f]
    rw [List.forall_mem_singleton] at hgroup
    exact (eq_of_eq_iff_eq hgroup).symm
  | inside _ ih =>
    apply holds_group_congr
    rw [List.forall_mem_append, List.forall_mem_append, List.forall_mem_cons, List.forall_mem_cons, ih]

end Formula

/-- Predicates of which one becomes the other by any number of changes of form, made or undone, hold on
the same records, so that a search finds the same ones in the same order. -/
theorem Predicate.holds_of_rearranged {p q : Predicate}
    (h : Relation.EqvGen Formula.Rearranges p q) (ρ : Type) [Record ρ] :
    (∀ record : ρ, (evaluate p record).holds = (evaluate q record).holds) ∧
    ∀ records : List ρ, find p records = find q records ∧
      findIndexes p records = findIndexes q records := by
  have hholds (record : ρ) : (evaluate p record).holds = (evaluate q record).holds := by
    induction h with
    | rel _ _ hstep => exact hstep.holds_eq _
    | refl _ => rfl
    | symm _ _ _ ih => exact ih.symm
    | trans _ _ _ _ _ ih ih' => exact ih.trans ih'
  refine ⟨hholds, fun records => ?_⟩
  simp only [find_eq_filter, findIndexes_eq, hholds, and_self]

/-- The predicate `c==1,((b==1;a==1)),(a==1;b==1)`, behind a group without parts. -/
def Predicate.eitherPairAgain : Predicate :=
  .group .or [.group .or [], .atom (oneAt "c"),
    .group .or [.group .and [.atom (oneAt "b"), .atom (oneAt "a")]],
    .group .and [.atom (oneAt "a"), .atom (oneAt "b")]]

theorem Predicate.eqvGen_eitherPair :
    Relation.EqvGen Formula.Rearranges eitherPair eitherPairAgain := by
  let pair : Predicate := .group .and [.atom (oneAt "a"), .atom (oneAt "b")]
  let swapped : Predicate := .group .and [.atom (oneAt "b"), .atom (oneAt "a")]
  let last : Predicate := .atom (oneAt "c")
  have hdouble : Formula.Rearranges (.group .or [pair, last]) (.group .or [pair, pair, last]) :=
    .duplicate List.mem_cons_self
  have hswap : Formula.Rearranges (.group .or [pair, pair, last])
      (.group .or [swapped, pair, last]) :=
    @Formula.Rearranges.inside _ _ [] _ _ _ (.permute (.swap ..))
  have hwrap : Formula.Rearranges (.group .or [swapped, pair, last])
      (.group .or [.group .or [swapped], pair, last]) :=
    @Formula.Rearranges.inside _ _ [] _ _ _ .wrap
  have hmove : Formula.Rearranges (.group .or [.group .or [swapped], pair, last])
      (.group .or [last, .group .or [swapped], pair]) :=
    .permute (List.perm_append_singleton last [.group .or [swapped], pair])
  have hempty : Formula.Rearranges eitherPairAgain
      (.group .or [last, .group .or [swapped], pair]) := @Formula.Rearranges.merge _ _ [] [] _
  exact .trans _ _ _ (.rel _ _ hdouble) <| .trans _ _ _ (.rel _ _ hswap) <|
    .trans _ _ _ (.rel _ _ hwrap) <| .trans _ _ _ (.rel _ _ hmove) (.symm _ _ (.rel _ _ hempty))

/-- The same records are found although other tests are made. -/
theorem Predicate.holds_of_rearranged_doubled :
    let record := Json.object [("a", .number (.integer 1)), ("b", .number (.integer 1))]
    Relation.EqvGen Formula.Rearranges eitherPair eitherPairAgain ∧
      find eitherPair [record, .null, record] = find eitherPairAgain [record, .null, record] ∧
      findIndexes eitherPairAgain [record, .null, record] = [0, 2] ∧
      (evaluate eitherPair record).trace ≠ (evaluate eitherPairAgain record).trace := by
  intro record
  obtain ⟨-, hfind⟩ := holds_of_rearranged eqvGen_eitherPair Json
  obtain ⟨hrecords, hplaces⟩ := hfind [record, .null, record]
  refine ⟨eqvGen_eitherPair, hrecords, ?_, ?_⟩
  · rw [← hplaces]
    decide +kernel
  · decide +kernel

end FilterQuery
