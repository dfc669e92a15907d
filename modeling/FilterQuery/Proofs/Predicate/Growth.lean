import FilterQuery.Proofs.Predicate.Meaning

/-!
# Records that grow

A condition holds on a record if some chain of records leads to a value that satisfies it, and chains do
not break when arrays get more items: so no predicate is lost, whatever the operators in it.

* `Json.Grows` : one more item in one array, anywhere in a value;
* `Json.simulates_grows` : what is reached from a value is reached, grown or not, from the grown one;
* `Predicate.holds_of_grown` : a predicate that holds goes on to hold.
-/

set_option autoImplicit false

namespace FilterQuery

/-- A predicate that holds on a record holds on those that simulate it. -/
theorem Predicate.holds_of_simulates {ρ : Type} [Record ρ] {R : ρ → ρ → Prop} (h : Simulates R)
    {x y : ρ} (hr : R x y) {p : Predicate} (hx : (evaluate p x).holds) : (evaluate p y).holds := by
  rw [evaluate_iff, Means] at hx ⊢
  exact hx.imp fun c _ hc => hc.simulate h hr

namespace Json

/-- One array, anywhere in a value, gets one more item at any place. -/
inductive Grows : Json → Json → Prop
  | here {before after : List Json} {item : Json} :
      Grows (.array (before ++ after)) (.array (before ++ item :: after))
  | member {before after : List (String × Json)} {name : String} {v w : Json} : Grows v w →
      Grows (.object (before ++ (name, v) :: after)) (.object (before ++ (name, w) :: after))
  | item {before after : List Json} {v w : Json} : Grows v w →
      Grows (.array (before ++ v :: after)) (.array (before ++ w :: after))

variable {v w : Json}

/-- What stands at a name is the same in either value, or it has grown. -/
theorem Grows.get? (h : Grows v w) (key : String) : v.get? key = w.get? key ∨
    ∃ v' w', v.get? key = some v' ∧ w.get? key = some w' ∧ Grows v' w' := by
  cases h with
  | @member before after name v w hvw =>
    simp only [Json.get?, lookup_between]
    cases before.lookup key <;> by_cases hk : key = name <;> simp [hk, hvw]
  | here => exact .inl rfl
  | item => exact .inl rfl

/-- What has grown is no scalar. -/
theorem Grows.scalar (h : Grows v w) (name : String) : v.scalar name = w.scalar name := by
  unfold Json.scalar
  rcases h.get? name with heq | ⟨v', w', hv, hw, hvw⟩
  · rw [heq]
  · rw [hv, hw]
    cases hvw <;> rfl

/-- The related records are still there, and at most one of them has grown. -/
theorem Grows.exists_related (h : Grows v w) {name : String} {x : Json} (hx : x ∈ v.related name) :
    ∃ y ∈ w.related name, Relation.ReflGen Grows x y := by
  rcases h.get? name with heq | ⟨v', w', hv, hw, hvw⟩
  · refine ⟨x, ?_, .refl⟩
    rwa [related, ← heq]
  · rw [related, hv] at hx
    rw [related, hw]
    cases hvw with
    | @here before after item =>
      rcases List.mem_append.1 hx with hx | hx
      · exact ⟨x, List.mem_append_left _ hx, .refl⟩
      · exact ⟨x, List.mem_append_right _ (List.mem_cons_of_mem _ hx), .refl⟩
    | member hvw =>
      obtain rfl := List.mem_singleton.1 hx
      exact ⟨_, List.mem_singleton_self _, .single (.member hvw)⟩
    | @item before after v' w' hvw =>
      rcases List.mem_append.1 hx with hx | hx
      · exact ⟨x, List.mem_append_left _ hx, .refl⟩
      · rcases List.mem_cons.1 hx with rfl | hx
        · exact ⟨w', List.mem_append_right _ List.mem_cons_self, .single hvw⟩
        · exact ⟨x, List.mem_append_right _ (List.mem_cons_of_mem _ hx), .refl⟩

theorem simulates_grows : Simulates (Relation.ReflGen Grows) where
  scalar := by
    rintro v w (_ | h) name
    · rfl
    · exact h.scalar name
  related := by
    rintro v w (_ | h) name x hx
    · exact ⟨x, hx, .refl⟩
    · exact h.exists_related hx

end Json

/-- A predicate that holds on a JSON value, whatever its operators, holds on what the value becomes when
arrays anywhere in it get more items. -/
theorem Predicate.holds_of_grown {p : Predicate} {v w : Json}
    (h : Relation.ReflTransGen Json.Grows v w) (hv : (evaluate p v).holds) : (evaluate p w).holds := by
  induction h with
  | refl => exact hv
  | tail _ hstep ih => exact holds_of_simulates Json.simulates_grows (.single hstep) ih

/-- A member with an item for each number, an object that has the number as its attribute. -/
def Json.kids (numbers : List Int) : List (String × Json) :=
  [("kids", .array (numbers.map fun n => .object [("a", .number (.integer n))]))]

/-- One of the children is not one, and remains so among children that are. -/
theorem Predicate.holds_of_grown_negated :
    let p : Predicate := .atom { Condition.ofKids with operator := .notEqual }
    Relation.ReflTransGen Json.Grows (.object (Json.kids [2])) (.object (Json.kids [1, 2, 1])) ∧
      (evaluate p (Json.object (Json.kids [2]))).holds ∧
      (evaluate p (Json.object (Json.kids [1, 2, 1]))).holds := by
  intro p
  have hfirst : Json.Grows (.object (Json.kids [2])) (.object (Json.kids [1, 2])) :=
    @Json.Grows.member [] [] "kids" _ _ (@Json.Grows.here [] _ _)
  have hsecond : Json.Grows (.object (Json.kids [1, 2])) (.object (Json.kids [1, 2, 1])) :=
    @Json.Grows.member [] [] "kids" _ _ (@Json.Grows.here [_, _] [] _)
  have hgrown := (Relation.ReflTransGen.single hfirst).tail hsecond
  have hholds : (evaluate p (Json.object (Json.kids [2]))).holds := by decide +kernel
  exact ⟨hgrown, hholds, holds_of_grown hgrown hholds⟩

end FilterQuery
