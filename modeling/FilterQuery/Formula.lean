/-!
# Formulas

A formula joins atoms by "and" and "or", with any number of parts each.

* `Formula.fold` : replaces atoms and connectives by operations; `Formula.induction` is the
  induction that goes with it;
* `Formula.map`, `Formula.atoms`, `Formula.join`, `Formula.traverse`;
* `Formula.render` : the text of a formula, with parentheses around each group inside a group;
* `Formula.evaluate` : whether a formula holds, with the atoms that were tested to find out.
-/

set_option autoImplicit false

namespace FilterQuery

universe u v

/-- How the parts of a group are joined. -/
inductive Connective where
  | and | or
deriving DecidableEq, Repr

/-- The mark between the parts of a group. -/
def Connective.mark : Connective → Char
  | and => ';'
  | or => ','

/-- Atoms joined by connectives. -/
inductive Formula (α : Type u) where
  | atom (a : α)
  | group (connective : Connective) (parts : List (Formula α))
deriving Repr

namespace Formula

variable {α : Type u} {β : Type v}

/-- A property of all formulas, from atoms and from the parts of a group. -/
theorem induction {motive : Formula α → Prop} (atom : ∀ a, motive (.atom a))
    (group : ∀ c parts, (∀ part ∈ parts, motive part) → motive (.group c parts)) :
    ∀ f, motive f := by
  refine @Formula.rec α motive (fun parts => ∀ part ∈ parts, motive part) atom group ?_ ?_
  · rintro _ ⟨⟩
  · intro head tail ih₁ ih₂ part mem
    rcases List.mem_cons.1 mem with rfl | mem
    · exact ih₁
    · exact ih₂ part mem

mutual

/-- Replaces atoms and groups by operations. -/
def fold (atom : α → β) (group : Connective → List β → β) : Formula α → β
  | .atom a => atom a
  | .group c parts => group c (foldParts atom group parts)

/-- Replaces atoms and groups in each part. -/
def foldParts (atom : α → β) (group : Connective → List β → β) : List (Formula α) → List β
  | [] => []
  | part :: rest => part.fold atom group :: foldParts atom group rest

end

@[simp] theorem foldParts_eq_map (atom : α → β) (group : Connective → List β → β) :
    ∀ parts : List (Formula α), foldParts atom group parts = parts.map (fold atom group)
  | [] => rfl
  | part :: rest => by rw [foldParts, List.map_cons, foldParts_eq_map atom group rest]

/-- The same formula over other atoms. -/
def map (f : α → β) : Formula α → Formula β := fold (fun a => .atom (f a)) .group

/-- The atoms, from left to right. -/
def atoms : Formula α → List α := fold (fun a => [a]) fun _ parts => parts.flatten

/-- A group of the given parts, or the part alone if there is just one. -/
def join (c : Connective) : List (Formula α) → Formula α
  | [only] => only
  | parts => .group c parts

/-- The atom of a formula without connectives. -/
def atom? : Formula α → Option α
  | .atom a => some a
  | .group .. => none

/-- The same formula over the results of `f`, or the failure of the leftmost atom that has one. -/
def traverse {ε : Type} (f : α → Except ε β) : Formula α → Except ε (Formula β) :=
  fold (fun a => (f a).map .atom) fun c parts => (parts.mapM id).map (.group c)

/-- The text of a formula: the texts of its atoms with the marks of the connectives between them,
and parentheses around each group that is part of another. -/
def render (leaf : α → List Char) (f : Formula α) : List Char :=
  f.fold (fun a _ => leaf a)
    (fun c parts nested =>
      let text := [c.mark].intercalate (parts.map (· true))
      if nested then '(' :: text ++ [')'] else text)
    false

/-! ### Truth -/

/-- Whether a formula holds, and the atoms that were tested to find out, in order. -/
structure Outcome (α : Type u) where
  holds : Bool
  trace : List (α × Bool)

/-- An outcome after the tests of another one. -/
def Outcome.after (first second : Outcome α) : Outcome α :=
  ⟨second.holds, first.trace ++ second.trace⟩

mutual

/-- Tests a formula, part by part: "and" stops at the first part that fails, "or" at the first that
holds. -/
def evaluate (test : α → Bool) : Formula α → Outcome α
  | .atom a => ⟨test a, [(a, test a)]⟩
  | .group .and parts => evaluateAll test parts
  | .group .or parts => evaluateAny test parts

/-- Tests parts up to the first that fails. -/
def evaluateAll (test : α → Bool) : List (Formula α) → Outcome α
  | [] => ⟨true, []⟩
  | part :: rest =>
    let first := part.evaluate test
    if first.holds then first.after (evaluateAll test rest) else first

/-- Tests parts up to the first that holds. -/
def evaluateAny (test : α → Bool) : List (Formula α) → Outcome α
  | [] => ⟨false, []⟩
  | part :: rest =>
    let first := part.evaluate test
    if first.holds then first else first.after (evaluateAny test rest)

end

mutual

/-- Whether two formulas have the same shape and atoms that `same` takes for equal. -/
def agrees (same : α → α → Bool) : Formula α → Formula α → Bool
  | .atom a, .atom b => same a b
  | .group c as, .group d bs => c = d && agreesAll same as bs
  | _, _ => false

/-- Whether two lists of formulas agree one by one. -/
def agreesAll (same : α → α → Bool) : List (Formula α) → List (Formula α) → Bool
  | [], [] => true
  | a :: as, b :: bs => a.agrees same b && agreesAll same as bs
  | _, _ => false

end

end Formula
end FilterQuery
