import FilterQuery.Proofs.Predicate.Compiled

/-!
# Values that can be compared

Whether a value of a record can be compared with a value that a query gives depends on the type of the
latter alone.

* `Value.isComparable` : the values of records that can be compared with those of a type;
* `Value.order_string` : a text of a record is read as a value of the query's type;
* `Value.IsReadAs.isSome_order` : with each of them, or with none;
* `Condition.isSome_order` : the same for the values of a condition, with strings folded or not.
-/

set_option autoImplicit false

namespace FilterQuery

namespace Binary64

theorem isSome_order (x y : Binary64) : (x.order y).isSome = (x.rank.isSome && y.rank.isSome) := by
  unfold order
  cases x.rank <;> cases y.rank <;> rfl

theorem isSome_rank_of_isFinite {x : Binary64} (h : x.isFinite) : x.rank.isSome := by
  cases x with
  | finite => rfl
  | nan | infinite => cases h

theorem isSome_rank_ofInt (n : Int) : (ofInt n).rank.isSome := by
  unfold ofInt
  cases Magnitude.nearest (n.natAbs * quantaOfOne) 1 <;> rfl

end Binary64

namespace Value

variable {type : ValueType} {foldCase : Bool}

/-- Whether a value of a record can be compared with values of a type. -/
def isComparable : Value → ValueType → Bool
  | string s, type => (coerce s type).toBool
  | integer _, type => type = .integer || type = .decimal || type = .string
  | decimal x, type => type = .string || (type = .integer || type = .decimal) && x.rank.isSome
  | date _, type => type = .date || type = .string
  | boolean _, type => type = .boolean || type = .string
  | null, _ => false

/-- Values of one type that were read can be compared. -/
theorem isSome_orderAlike {v w : Value} (hv : v.type? = some type) (hw : w.type? = some type)
    (hvf : ∀ x, v = .decimal x → x.isFinite) (hwf : ∀ x, w = .decimal x → x.isFinite) :
    (v.orderAlike w).isSome := by
  have htype : v.type? = w.type? := hv.trans hw.symm
  cases v with
  | null => cases hv
  | decimal x =>
    cases w <;> cases htype
    have hx := Binary64.isSome_rank_of_isFinite (hvf _ rfl)
    have hy := Binary64.isSome_rank_of_isFinite (hwf _ rfl)
    rw [orderAlike, Binary64.isSome_order, hx, hy]
    rfl
  | string | integer | date | boolean =>
    cases w <;> cases htype
    rfl

/-- A text is read first, unless it is compared with a string. -/
theorem order_string (s : String) {v : Value} (hv : v.type? = some type) (hs : type ≠ .string) :
    (string s).order v = (coerce s type).toOption.bind (·.orderAlike v) := by
  cases v with
  | null => cases hv
  | string t =>
    cases hv
    exact absurd rfl hs
  | integer | decimal | date | boolean =>
    cases hv
    unfold order
    dsimp only [type?]
    cases coerce s _ <;> rfl

/-- A text can be compared with a value of a type if it writes a value of this type itself. -/
theorem isSome_order_string (s : String) {v : Value} (hv : v.type? = some type)
    (hf : ∀ x, v = .decimal x → x.isFinite) :
    ((string s).order v).isSome = (coerce s type).toBool := by
  by_cases hs : type = .string
  · subst hs
    cases v <;> cases hv
    rfl
  · rw [order_string s hv hs]
    cases hw : coerce s type with
    | error e => rfl
    | ok w =>
      obtain ⟨ht, hwf⟩ := type_finite_of_coerce hw
      exact isSome_orderAlike ht hv hwf hf

/-- A value of a record can be compared with each value of a type that a query gives, or with none. -/
theorem IsReadAs.isSome_order {v : Value} (h : v.IsReadAs type foldCase) (x : Value) :
    (x.order v).isSome = x.isComparable type := by
  have hv := h.type_eq
  cases x with
  | null => rfl
  | string s => exact isSome_order_string s hv h.finite
  | integer n =>
    cases v with
    | null => cases hv
    | decimal y =>
      cases hv
      have hy := Binary64.isSome_rank_of_isFinite (h.finite y rfl)
      rw [order, orderAlike, Binary64.isSome_order, Binary64.isSome_rank_ofInt, hy]
      · rfl
      all_goals nofun
    | string | integer | date | boolean =>
      cases hv
      rfl
  | decimal x =>
    cases v with
    | null => cases hv
    | integer n =>
      cases hv
      rw [order, orderAlike, Binary64.isSome_order, Binary64.isSome_rank_ofInt, Bool.and_true]
      · rfl
      all_goals nofun
    | decimal y =>
      cases hv
      have hy := Binary64.isSome_rank_of_isFinite (h.finite y rfl)
      rw [order, orderAlike, Binary64.isSome_order, hy, Bool.and_true]
      · rfl
      all_goals nofun
    | string | date | boolean =>
      cases hv
      rfl
  | date | boolean =>
    cases v <;> cases hv <;> rfl

end Value

theorem Condition.order_eq (c : Condition) (actual expected : Value) :
    c.order actual expected = (actual.folded c.foldCase).order expected := by
  cases actual <;> rfl

theorem Condition.isSome_order {type : ValueType} {foldCase : Bool} (c : Condition) {v : Value}
    (h : v.IsReadAs type foldCase) (actual : Value) :
    (c.order actual v).isSome = (actual.folded c.foldCase).isComparable type := by
  rw [c.order_eq, h.isSome_order]

end FilterQuery
