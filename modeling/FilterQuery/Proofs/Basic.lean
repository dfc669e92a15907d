import FilterQuery.Binary64.Reading
import Mathlib.Algebra.Group.Nat.Defs
import Mathlib.Data.List.Forall2
import Mathlib.Data.List.TakeWhile

/-!
# Runs of characters, lists, digits and results

* `takeWhile_append_of_stop`, `dropWhile_append_of_stop` : a run of characters of one class up to a
  character of another;
* `exists_of_mem_forall₂` : what goes with an element of a list;
* `isDigit_toDigits`, `digitsValue_toDigits` : the digits of a number, and the number they write;
* `map_eq_ok`, `bind_eq_ok`, `mapM_eq_ok`, `mapError_eq_ok` : when a composed result is no error;
* `map_eq_error`, `bind_eq_error`, `mapError_eq_error`, `mapM_eq_error` : when it is one;
* `mapM_map_mapError` : the results for a list that is changed, with errors that change as it does.
-/

set_option autoImplicit false

namespace FilterQuery

/-! ### Runs -/

theorem takeWhile_append_of_stop {p : Char → Bool} {text rest : List Char} (h : ∀ c ∈ text, p c)
    (hr : ∀ c ∈ rest.head?, p c = false) : (text ++ rest).takeWhile p = text := by
  rw [List.takeWhile_append_of_pos h]
  cases rest with
  | nil => simp
  | cons c rest => simp [hr c rfl]

theorem dropWhile_append_of_stop {p : Char → Bool} {text rest : List Char} (h : ∀ c ∈ text, p c)
    (hr : ∀ c ∈ rest.head?, p c = false) : (text ++ rest).dropWhile p = rest := by
  rw [List.dropWhile_append_of_pos h]
  cases rest with
  | nil => rfl
  | cons c rest => simp [hr c rfl]

/-! ### Lists, one by one -/

theorem exists_of_mem_forall₂ {α : Type*} {β : Type*} {R : α → β → Prop} {xs : List α} {ys : List β}
    (h : List.Forall₂ R xs ys) {x : α} (hx : x ∈ xs) : ∃ y ∈ ys, R x y := by
  induction h with
  | nil => cases hx
  | cons hr _ ih =>
    rcases List.mem_cons.1 hx with rfl | hx
    · exact ⟨_, List.mem_cons_self, hr⟩
    · obtain ⟨y, hy, hr'⟩ := ih hx
      exact ⟨y, List.mem_cons_of_mem _ hy, hr'⟩

/-! ### Digits -/

theorem isDigit_toDigits {n : Nat} {c : Char} (h : c ∈ Nat.toDigits 10 n) : c.isDigit :=
  Nat.isDigit_of_mem_toDigits (by decide) (by decide) h

theorem digitsValue_toDigits (n : Nat) : digitsValue (Nat.toDigits 10 n) = n :=
  Nat.ofDigitChars_ten_toDigits

theorem digitsValue_append (as bs : List Char) :
    digitsValue (as ++ bs) = 10 ^ bs.length * digitsValue as + digitsValue bs := by
  rw [digitsValue, Nat.ofDigitChars_append, Nat.ofDigitChars_eq_ofDigitChars_zero]
  rfl

theorem digitsValue_zeros (n : Nat) : digitsValue (List.replicate n '0') = 0 := by
  rw [digitsValue, Nat.ofDigitChars_replicate_zero, Nat.mul_zero]

theorem le_ofDigitChars (cs : List Char) (n : Nat) : n ≤ Nat.ofDigitChars 10 cs n := by
  rw [Nat.ofDigitChars_eq_ofDigitChars_zero]
  have := Nat.le_mul_of_pos_left n (Nat.pow_pos (n := cs.length) (show 0 < 10 by decide))
  omega

/-! ### Results -/

section Results

universe u v

variable {α : Type u} {β : Type v}

theorem map_eq_ok {ε : Type} {x : Except ε α} {f : α → β} {b : β} :
    x.map f = .ok b ↔ ∃ a, x = .ok a ∧ f a = b := by
  cases x with
  | error e => simp [Except.map]
  | ok a => simp [Except.map]

theorem bind_eq_ok {ε : Type} {x : Except ε α} {f : α → Except ε β} {b : β} :
    x.bind f = .ok b ↔ ∃ a, x = .ok a ∧ f a = .ok b := by
  cases x with
  | error e => simp [Except.bind]
  | ok a => simp [Except.bind]

theorem bind_eq_error {ε : Type} {x : Except ε α} {f : α → Except ε β} {e : ε} :
    x.bind f = .error e ↔ x = .error e ∨ ∃ a, x = .ok a ∧ f a = .error e := by
  cases x with
  | error e' => simp [Except.bind]
  | ok a => simp [Except.bind]

theorem mapM_eq_ok {ε : Type} {f : α → Except ε β} {xs : List α} {ys : List β} :
    xs.mapM f = .ok ys ↔ xs.map f = ys.map .ok := by
  induction xs generalizing ys with
  | nil =>
    constructor
    · intro h
      cases h
      rfl
    · intro h
      rw [List.map_eq_nil_iff.1 h.symm]
      rfl
  | cons x xs ih =>
    rw [List.mapM_cons, List.map_cons]
    constructor
    · intro h
      cases hx : f x with
      | error e =>
        rw [hx] at h
        cases h
      | ok y =>
        cases hxs : xs.mapM f with
        | error e =>
          rw [hx, hxs] at h
          cases h
        | ok zs =>
          rw [hx, hxs] at h
          cases h
          rw [List.map_cons, ih.1 hxs]
    · intro h
      obtain ⟨y, zs, rfl, hy, hzs⟩ := List.map_eq_cons_iff.1 h.symm
      rw [← hy, ih.2 hzs.symm]
      rfl

theorem mapError_eq_ok {ε ε' : Type} {x : Except ε α} {f : ε → ε'} {a : α} :
    x.mapError f = .ok a ↔ x = .ok a := by
  cases x with
  | error e => simp [Except.mapError]
  | ok b => simp [Except.mapError]

theorem map_eq_error {ε : Type} {x : Except ε α} {f : α → β} {e : ε} :
    x.map f = .error e ↔ x = .error e := by
  cases x with
  | error e' => simp [Except.map]
  | ok a => simp [Except.map]

theorem mapError_eq_error {ε ε' : Type} {x : Except ε α} {f : ε → ε'} {e : ε'} :
    x.mapError f = .error e ↔ ∃ e₀, x = .error e₀ ∧ f e₀ = e := by
  cases x with
  | error e₀ => simp [Except.mapError]
  | ok a => simp [Except.mapError]

theorem exists_mapM_eq_ok {ε : Type} {f : α → Except ε β} {xs : List α}
    (h : ∀ x ∈ xs, ∃ y, f x = .ok y) : ∃ ys, xs.mapM f = .ok ys := by
  induction xs with
  | nil => exact ⟨[], rfl⟩
  | cons x xs ih =>
    obtain ⟨⟨y, hy⟩, hxs⟩ := List.forall_mem_cons.1 h
    obtain ⟨ys, hys⟩ := ih hxs
    refine ⟨y :: ys, ?_⟩
    rw [List.mapM_cons, hy, hys]
    rfl

/-- The first failure is the one that counts. -/
theorem mapM_eq_error {ε : Type} {f : α → Except ε β} {xs : List α} {e : ε} :
    xs.mapM f = .error e ↔ ∃ front x back, xs = front ++ x :: back ∧
      (∀ y ∈ front, ∃ b, f y = .ok b) ∧ f x = .error e := by
  constructor
  · intro h
    induction xs with
    | nil => cases h
    | cons x xs ih =>
      rw [List.mapM_cons] at h
      cases hx : f x with
      | error e' =>
        rw [hx] at h
        cases h
        exact ⟨[], x, xs, rfl, List.forall_mem_nil _, hx⟩
      | ok b =>
        cases hxs : xs.mapM f with
        | ok ys =>
          rw [hx, hxs] at h
          cases h
        | error e' =>
          rw [hx, hxs] at h
          cases h
          obtain ⟨front, y, back, rfl, hfront, hy⟩ := ih hxs
          exact ⟨x :: front, y, back, rfl, List.forall_mem_cons.2 ⟨⟨b, hx⟩, hfront⟩, hy⟩
  · rintro ⟨front, x, back, rfl, hfront, hx⟩
    obtain ⟨ys, hys⟩ := exists_mapM_eq_ok hfront
    rw [List.mapM_append, hys, List.mapM_cons, hx]
    rfl

theorem mapError_id {ε : Type} (x : Except ε α) : x.mapError id = x := by
  cases x <;> rfl

/-- Results that are equal up to a change of errors. -/
theorem mapError_eq_mapError {ε ε' : Type} {x y : Except ε α} {f : ε → ε'} :
    x.mapError f = y.mapError f ↔ (∃ a, x = .ok a ∧ y = .ok a) ∨
      ∃ e e', x = .error e ∧ y = .error e' ∧ f e = f e' := by
  cases x <;> cases y <;> simp [Except.mapError, eq_comm]

theorem mapError_map {ε ε' : Type} (x : Except ε α) (f : α → β) (move : ε → ε') :
    (x.map f).mapError move = (x.mapError move).map f := by
  cases x <;> rfl

theorem mapM_map_mapError {α' : Type*} {ε ε' : Type} {f : α → Except ε β} {f' : α' → Except ε' β}
    {g : α → α'} {move : ε → ε'} {xs : List α}
    (h : ∀ x ∈ xs, f' (g x) = (f x).mapError move) :
    (xs.map g).mapM f' = (xs.mapM f).mapError move := by
  induction xs with
  | nil => rfl
  | cons x xs ih =>
    obtain ⟨hx, hxs⟩ := List.forall_mem_cons.1 h
    rw [List.map_cons, List.mapM_cons, List.mapM_cons, hx, ih hxs]
    cases f x with
    | error e => rfl
    | ok y => cases xs.mapM f <;> rfl

end Results

end FilterQuery
