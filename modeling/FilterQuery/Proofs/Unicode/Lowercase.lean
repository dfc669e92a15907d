import FilterQuery.LikePattern
import FilterQuery.Unicode.Lowercase

/-!
# Lowercase text stays as it is

* `CaseRange.misses` : a range of characters is mapped outside of another;
* `lowercaseTable_misses` : the table maps nothing to a character that it maps, to the dotted capital
  I or to the star;
* `isLower_of_ascii` : in ASCII it maps the capital letters only;
* `lowercase_lowercase` : the lowercase of a text in lowercase is that text;
* `star_mem_of_lowercase` : a star in the lowercase of a text stands in the text.
-/

set_option autoImplicit false

namespace FilterQuery.Unicode

/-! ### Where the table leads -/

/-- What `r` covers is mapped to characters. -/
def CaseRange.isSound (r : CaseRange) : Bool :=
  let last := (r.last + r.shift).toNat
  0 ≤ r.first + r.shift &&
    (last < 0xD800 || (0xDFFF < (r.first + r.shift).toNat && last < 0x110000))

/-- What `r` covers is mapped to nothing that `s` covers. -/
def CaseRange.misses (r s : CaseRange) : Bool :=
  let first := (r.first + r.shift).toNat
  let last := (r.last + r.shift).toNat
  s.last.blt first || last.blt s.first ||
    ((r.step = 2 || r.first = r.last) && s.step = 2 && first % 2 ≠ s.first % 2)

/-- The dotted capital I, the star, and the characters of the table. -/
def movable : List CaseRange := ⟨0x130, 0x130, 1, 0⟩ :: ⟨0x2A, 0x2A, 1, 0⟩ :: lowercaseTable

theorem lowercaseTable_misses :
    lowercaseTable.all fun r => r.isSound && movable.all r.misses := by decide +kernel

section Ranges

variable {r s : CaseRange} {n : Nat}

theorem covers_iff : r.covers n ↔
    r.first ≤ n ∧ n ≤ r.last ∧ (n - r.first) % r.step = 0 := by
  simp [CaseRange.covers, and_assoc]

theorem isValid_of_isSound (hr : r.isSound) (hn : r.covers n) :
    0 ≤ n + r.shift ∧ Nat.isValidChar (n + r.shift).toNat := by
  obtain ⟨hfirst, hlast, -⟩ := covers_iff.1 hn
  simp only [CaseRange.isSound, Bool.and_eq_true, Bool.or_eq_true, decide_eq_true_eq] at hr
  unfold Nat.isValidChar
  omega

theorem not_covers_of_misses (hr : r.isSound) (hm : r.misses s) (hn : r.covers n) :
    ¬ s.covers (n + r.shift).toNat := by
  intro hs
  obtain ⟨hfirst, hlast, hstep⟩ := covers_iff.1 hn
  obtain ⟨hfirst', hlast', hstep'⟩ := covers_iff.1 hs
  simp only [CaseRange.isSound, Bool.and_eq_true, decide_eq_true_eq] at hr
  simp only [CaseRange.misses, Bool.and_eq_true, Bool.or_eq_true, Nat.blt_eq, decide_eq_true_eq]
    at hm
  rcases hm with (hm | hm) | ⟨⟨hr2 | hr2, hs2⟩, hparity⟩
  · omega
  · omega
  · rw [hr2] at hstep
    rw [hs2] at hstep'
    omega
  · rw [hs2] at hstep'
    omega

/-- What a table leads to is a character, and one that the ranges it misses do not cover. -/
theorem shift_misses {table others : List CaseRange}
    (h : table.all fun r => r.isSound && others.all r.misses) (hr : r ∈ table) (hn : r.covers n) :
    (Char.ofNat (n + r.shift).toNat).toNat = (n + r.shift).toNat ∧
      ∀ s ∈ others, ¬ s.covers (n + r.shift).toNat := by
  have h := List.all_eq_true.1 h r hr
  rw [Bool.and_eq_true] at h
  obtain ⟨hsound, hmisses⟩ := h
  constructor
  · obtain ⟨-, hvalid⟩ := isValid_of_isSound hsound hn
    rw [Char.ofNat, dif_pos hvalid]
    rfl
  · intro s hs
    exact not_covers_of_misses hsound (List.all_eq_true.1 hmisses s hs) hn

end Ranges

/-! ### Lowercase characters -/

/-- The lowercase of a text leaves the character as it is. -/
def IsLower (c : Char) : Prop := c ≠ 'Σ' ∧ lowercaseChar c = [c]

instance (c : Char) : Decidable (IsLower c) := inferInstanceAs (Decidable (_ ∧ _))

/-- The characters that the rules beside the table lead to. -/
theorem isLower_special : ∀ d ∈ ['i', '\u0307', 'ς', 'σ'], IsLower d ∧ d ≠ star := by
  have hall : ['i', '\u0307', 'ς', 'σ'].all fun d => IsLower d ∧ d ≠ star := by decide +kernel
  intro d hd
  exact of_decide_eq_true (List.all_eq_true.1 hall d hd)

theorem isLower_of_not_covers {c : Char} (h : ∀ s ∈ movable, ¬ s.covers c.toNat) :
    IsLower c ∧ c ≠ star := by
  have hne (d : Char) (r : CaseRange) (hr : r ∈ movable) (hd : r.covers d.toNat) : c ≠ d := by
    rintro rfl
    exact h r hr hd
  have htable {r : CaseRange} (hr : r ∈ lowercaseTable) : r ∈ movable :=
    List.mem_cons_of_mem _ (List.mem_cons_of_mem _ hr)
  have hdot : c ≠ '\u0130' := hne _ ⟨0x130, 0x130, 1, 0⟩ List.mem_cons_self (by decide)
  have hsigma : c ≠ 'Σ' := hne _ ⟨0x3A3, 0x3AB, 1, 32⟩ (htable (by decide)) (by decide)
  have hstar : c ≠ star :=
    hne _ ⟨0x2A, 0x2A, 1, 0⟩ (List.mem_cons_of_mem _ List.mem_cons_self) (by decide)
  have hnone : lowercaseTable.find? (·.covers c.toNat) = none := by
    rw [List.find?_eq_none]
    intro r hr
    exact h r (htable hr)
  refine ⟨⟨hsigma, ?_⟩, hstar⟩
  rw [lowercaseChar, if_neg hdot, shiftBy, hnone]

/-- In ASCII all but the capital letters are lowercase already. -/
theorem isLower_of_ascii {c : Char} (h : c.toNat < 128) (hupper : c.isUpper = false) : IsLower c := by
  have htable : lowercaseTable.all fun r => r.first = 0x41 && r.last = 0x5A || 128 ≤ r.first := by
    decide +kernel
  have hne (d : Char) (hd : 128 ≤ d.toNat) : c ≠ d := by
    rintro rfl
    exact absurd h (Nat.not_lt.2 hd)
  have hnone : lowercaseTable.find? (·.covers c.toNat) = none := by
    rw [List.find?_eq_none]
    intro r hr hcovers
    obtain ⟨hfirst, hlast, -⟩ := covers_iff.1 hcovers
    have hrange := List.all_eq_true.1 htable r hr
    simp only [Bool.or_eq_true, Bool.and_eq_true, decide_eq_true_eq] at hrange
    have : ¬ (65 ≤ c.toNat ∧ c.toNat ≤ 90) := of_decide_eq_false hupper
    omega
  refine ⟨hne _ (by decide), ?_⟩
  rw [lowercaseChar, if_neg (hne _ (by decide)), shiftBy, hnone]

theorem isLower_lowercaseChar {c d : Char} (hc : c ≠ 'Σ') (hd : d ∈ lowercaseChar c) :
    IsLower d ∧ (d = star → c = star) := by
  unfold lowercaseChar at hd
  split at hd
  · obtain ⟨hlower, hstar⟩ := isLower_special d (List.mem_append_left ['ς', 'σ'] hd)
    exact ⟨hlower, fun h => absurd h hstar⟩
  · next hdot =>
    obtain rfl := List.mem_singleton.1 hd
    unfold shiftBy
    cases hf : lowercaseTable.find? (·.covers c.toNat) with
    | none =>
      refine ⟨⟨hc, ?_⟩, id⟩
      rw [lowercaseChar, if_neg hdot, shiftBy, hf]
    | some r =>
      have hcovers := List.find?_some hf
      obtain ⟨hnat, hmiss⟩ :=
        shift_misses lowercaseTable_misses (List.mem_of_find?_eq_some hf) hcovers
      rw [← hnat] at hmiss
      obtain ⟨hlower, hstar⟩ := isLower_of_not_covers hmiss
      exact ⟨hlower, fun h => absurd h hstar⟩

/-! ### Lowercase texts -/

theorem isLower_lowercaseAfter {before : Bool} {cs : List Char} :
    ∀ d ∈ lowercaseAfter before cs, IsLower d ∧ (d = star → star ∈ cs) := by
  induction cs generalizing before with
  | nil => exact List.forall_mem_nil _
  | cons c cs ih =>
    intro d hd
    rcases List.mem_append.1 hd with hd | hd
    · split at hd
      · have hmem : d ∈ ['i', '\u0307', 'ς', 'σ'] := by
          split at hd <;> simp_all
        obtain ⟨hlower, hstar⟩ := isLower_special d hmem
        exact ⟨hlower, fun h => absurd h hstar⟩
      · next hc =>
        obtain ⟨hlower, hstar⟩ := isLower_lowercaseChar hc hd
        refine ⟨hlower, ?_⟩
        intro h
        rw [hstar h]
        exact List.mem_cons_self
    · obtain ⟨hlower, hstar⟩ := ih d hd
      refine ⟨hlower, ?_⟩
      intro h
      exact List.mem_cons_of_mem _ (hstar h)

theorem lowercaseAfter_of_isLower {before : Bool} {cs : List Char} (h : ∀ c ∈ cs, IsLower c) :
    lowercaseAfter before cs = cs := by
  induction cs generalizing before with
  | nil => rfl
  | cons c cs ih =>
    obtain ⟨⟨hsigma, hc⟩, h⟩ := List.forall_mem_cons.1 h
    rw [lowercaseAfter, if_neg hsigma, hc, ih h]
    rfl

/-- The lowercase of a text in lowercase is that text. -/
theorem lowercase_lowercase (cs : List Char) : lowercase (lowercase cs) = lowercase cs := by
  apply lowercaseAfter_of_isLower
  intro d hd
  exact (isLower_lowercaseAfter d hd).1

/-- A star in the lowercase of a text stands in the text. -/
theorem star_mem_of_lowercase {cs : List Char} (h : star ∈ lowercase cs) : star ∈ cs :=
  (isLower_lowercaseAfter star h).2 rfl

end FilterQuery.Unicode
