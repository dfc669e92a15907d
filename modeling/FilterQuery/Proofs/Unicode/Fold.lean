import FilterQuery.Proofs.Unicode.Lowercase
import Mathlib.Data.List.Basic

/-!
# Lowercase and case folding

Texts are told apart up to case in two ways: by their lowercase, and by folding their characters. Where
the lowercase of two texts is the same, so are their folded characters, but for a few characters whose
lowercase folding does not know.

* `fold_of_covers`, `fold_eq_star` : folding leads to characters that it leaves as they are, and nothing
  else is folded to the star;
* `unfolded` : the characters whose lowercase is not folded to what they are folded to, by
  `fold_lowercaseChar_iff`;
* `map_fold_of_lowercase` : texts with the same lowercase that have these at the same places are folded
  to the same text, and `map_fold_lowercase`, that there are none where the lowercase is in ASCII.
-/

set_option autoImplicit false

namespace FilterQuery.Unicode

/-! ### The folding table -/

/-- Folding leads to characters that it leaves as they are, and not to the star. -/
theorem foldTable_misses :
    foldTable.all fun r => r.isSound && (⟨0x2A, 0x2A, 1, 0⟩ :: foldTable).all r.misses := by
  decide +kernel

/-- A range ends before the other one. -/
def CaseRange.Before (r s : CaseRange) : Prop := r.last < s.first ∧ s.first ≤ s.last

instance : DecidableRel CaseRange.Before := fun _ _ => inferInstanceAs (Decidable (_ ∧ _))

instance : Trans CaseRange.Before CaseRange.Before CaseRange.Before where
  trans hrs hst := ⟨Nat.lt_trans (Nat.lt_of_lt_of_le hrs.1 hrs.2) hst.1, hst.2⟩

theorem foldTable_sorted : foldTable.Pairwise CaseRange.Before := by
  have hchain : foldTable.IsChain CaseRange.Before := by decide +kernel
  exact hchain.pairwise

/-- In a sorted table no other range covers what one does. -/
theorem find?_covers {table : List CaseRange} {r : CaseRange} {n : Nat}
    (h : table.Pairwise CaseRange.Before) (hr : r ∈ table) (hn : r.covers n) :
    table.find? (·.covers n) = some r := by
  induction table with
  | nil => cases hr
  | cons s table ih =>
    obtain ⟨hfirst, h⟩ := List.pairwise_cons.1 h
    rcases List.mem_cons.1 hr with rfl | hr
    · exact List.find?_cons_of_pos hn
    · have hs : ¬ s.covers n := by
        intro hs
        obtain ⟨hlt, -⟩ := hfirst r hr
        obtain ⟨-, hlast, -⟩ := covers_iff.1 hs
        obtain ⟨hle, -, -⟩ := covers_iff.1 hn
        omega
      simp only [List.find?_cons, hs]
      exact ih h hr

variable {c : Char}

theorem fold_of_covers {r : CaseRange} (hr : r ∈ foldTable) (hc : r.covers c.toNat) :
    fold c = Char.ofNat (c.toNat + r.shift).toNat ∧ fold (fold c) = fold c ∧ fold c ≠ star := by
  have hfold : fold c = Char.ofNat (c.toNat + r.shift).toNat := by
    rw [fold, shiftBy, find?_covers foldTable_sorted hr hc]
  obtain ⟨hnat, hmiss⟩ := shift_misses foldTable_misses hr hc
  rw [← hfold] at hnat
  rw [← hnat] at hmiss
  refine ⟨hfold, ?_, ?_⟩
  · have hnone : foldTable.find? (·.covers (fold c).toNat) = none := by
      rw [List.find?_eq_none]
      intro s hs
      exact hmiss s (List.mem_cons_of_mem _ hs)
    change shiftBy foldTable (fold c) = fold c
    rw [shiftBy, hnone]
  · intro hstar
    exact hmiss ⟨0x2A, 0x2A, 1, 0⟩ List.mem_cons_self (by rw [hstar]; decide)

/-- Folding takes a character elsewhere only if a range of the table covers it. -/
theorem fold_cases (c : Char) : fold c = c ∨ ∃ r ∈ foldTable, r.covers c.toNat := by
  cases hf : foldTable.find? (·.covers c.toNat) with
  | none =>
    left
    rw [fold, shiftBy, hf]
  | some r =>
    have hc : r.covers c.toNat := by simpa using List.find?_some hf
    exact .inr ⟨r, List.mem_of_find?_eq_some hf, hc⟩

theorem fold_eq_star : fold c = star ↔ c = star := by
  constructor
  · intro h
    rcases fold_cases c with heq | ⟨r, hr, hc⟩
    · rw [← heq, h]
    · exact absurd h (fold_of_covers hr hc).2.2
  · rintro rfl
    decide +kernel

/-! ### Folding the lowercase -/

/-- The characters whose lowercase folding does not take to the same character: the dotted capital I,
with a lowercase of two characters, and capital letters that the folding table lacks. -/
def unfolded : List Char :=
  (0x130 :: 0xA7CE :: 0xA7D2 :: 0xA7D4 :: List.range' 0x16EA0 25).map Char.ofNat

/-- The range that leads back. -/
def CaseRange.reversed (r : CaseRange) : CaseRange :=
  ⟨(r.first + r.shift).toNat, (r.last + r.shift).toNat, r.step, -r.shift⟩

/-- Folding leads back from where the range leads, or takes each character to the same one as where the
range leads. -/
def CaseRange.isFolded (r : CaseRange) : Bool :=
  foldTable.contains r.reversed || (List.range' r.first (r.last + 1 - r.first)).all fun n =>
    unfolded.contains (Char.ofNat n) || ! r.covers n ||
      fold (Char.ofNat (n + r.shift).toNat) = fold (Char.ofNat n)

theorem lowercaseTable_isFolded : (lowercaseTable.diff foldTable).all CaseRange.isFolded := by
  decide +kernel

theorem unfolded_spec : unfolded.all fun c =>
    (lowercaseChar c).map fold ≠ [fold c] && (lowercaseChar c).any (128 ≤ ·.toNat) := by
  decide +kernel

theorem covers_reversed {r : CaseRange} {n : Nat} (hr : r.isSound) (hn : r.covers n) :
    r.reversed.covers (n + r.shift).toNat := by
  obtain ⟨hfirst, hlast, hstep⟩ := covers_iff.1 hn
  obtain ⟨hpos, -⟩ := Bool.and_eq_true_iff.1 hr
  have hpos := of_decide_eq_true hpos
  have hdiff : (n + r.shift).toNat - (r.first + r.shift).toNat = n - r.first := by omega
  refine covers_iff.2 ⟨?_, ?_, ?_⟩
  · change (r.first + r.shift).toNat ≤ _
    omega
  · change _ ≤ (r.last + r.shift).toNat
    omega
  · change ((n + r.shift).toNat - (r.first + r.shift).toNat) % r.step = 0
    rw [hdiff, hstep]

/-- Folding takes what a range covers to the same character as where the range leads. -/
theorem fold_shift {r : CaseRange} (hr : r ∈ lowercaseTable) (hc : r.covers c.toNat)
    (h : c ∉ unfolded) : fold (Char.ofNat (c.toNat + r.shift).toNat) = fold c := by
  by_cases hmem : r ∈ foldTable
  · obtain ⟨hfold, hagain, -⟩ := fold_of_covers hmem hc
    rw [← hfold, hagain]
  · have hfolded := List.all_eq_true.1 lowercaseTable_isFolded r (List.mem_diff_of_mem hr hmem)
    rcases Bool.or_eq_true_iff.1 hfolded with hback | hall
    · have hsound := List.all_eq_true.1 lowercaseTable_misses r hr
      obtain ⟨hnat, -⟩ := shift_misses lowercaseTable_misses hr hc
      obtain ⟨hpos, -⟩ := isValid_of_isSound (Bool.and_eq_true_iff.1 hsound).1 hc
      have hcovers := covers_reversed (Bool.and_eq_true_iff.1 hsound).1 hc
      rw [← hnat] at hcovers
      obtain ⟨hfold, hagain, -⟩ := fold_of_covers (List.contains_iff_mem.1 hback) hcovers
      have hreturn : fold (Char.ofNat (c.toNat + r.shift).toNat) = c := by
        have hzero : ((c.toNat + r.shift).toNat + r.reversed.shift).toNat = c.toNat := by
          change (((c.toNat + r.shift).toNat : Int) + -r.shift).toNat = c.toNat
          omega
        rw [hfold, hnat, hzero, Char.ofNat_toNat]
      rw [hreturn] at hagain ⊢
      exact hagain.symm
    · obtain ⟨hfirst, hlast, -⟩ := covers_iff.1 hc
      have hrange : c.toNat ∈ List.range' r.first (r.last + 1 - r.first) := by
        rw [List.mem_range'_1]
        omega
      have hn := List.all_eq_true.1 hall c.toNat hrange
      rw [Char.ofNat_toNat, hc] at hn
      simpa [h] using hn

theorem fold_lowercaseChar (h : c ∉ unfolded) : (lowercaseChar c).map fold = [fold c] := by
  have hdot : c ≠ '\u0130' := by
    rintro rfl
    exact h (by decide)
  rw [lowercaseChar, if_neg hdot, List.map_singleton, shiftBy]
  cases hf : lowercaseTable.find? (·.covers c.toNat) with
  | none => rfl
  | some r =>
    have hc : r.covers c.toNat := by simpa using List.find?_some hf
    rw [fold_shift (List.mem_of_find?_eq_some hf) hc h]

/-- Exactly these characters are not folded as their lowercase is. -/
theorem fold_lowercaseChar_iff : (lowercaseChar c).map fold = [fold c] ↔ c ∉ unfolded := by
  refine ⟨fun heq hmem => ?_, fold_lowercaseChar⟩
  have h := List.all_eq_true.1 unfolded_spec c hmem
  simp [heq] at h

/-- The lowercase of each of them has a character that is not in ASCII. -/
theorem exists_of_mem_unfolded (h : c ∈ unfolded) : ∃ d ∈ lowercaseChar c, 128 ≤ d.toNat := by
  have h := List.all_eq_true.1 unfolded_spec c h
  rw [Bool.and_eq_true, List.any_eq_true] at h
  obtain ⟨-, d, hd, hle⟩ := h
  exact ⟨d, hd, of_decide_eq_true hle⟩

/-! ### Folding lowercase texts -/

/-- A small sigma is folded alike whether it ends a word or not. -/
theorem map_fold_lowercaseAfter (before : Bool) (cs : List Char) :
    (lowercaseAfter before cs).map fold = cs.flatMap fun c => (lowercaseChar c).map fold := by
  induction cs generalizing before with
  | nil => rfl
  | cons c cs ih =>
    rw [lowercaseAfter, List.map_append, ih, List.flatMap_cons]
    congr 1
    split
    · next hc =>
      rw [hc]
      split <;> decide +kernel
    · rfl

/-- Two texts have the characters whose lowercase is not folded alike at the same places. -/
def SameUnfolded (s t : List Char) : Prop :=
  ∀ c ∈ unfolded, ∀ i : Nat, s[i]? = some c ↔ t[i]? = some c

theorem sameUnfolded_of_not_mem {s t : List Char} (hs : ∀ c ∈ s, c ∉ unfolded)
    (ht : ∀ c ∈ t, c ∉ unfolded) : SameUnfolded s t := by
  intro c hc i
  constructor
  · exact fun h => absurd hc (hs c (List.mem_of_getElem? h))
  · exact fun h => absurd hc (ht c (List.mem_of_getElem? h))

theorem flatMap_fold_lowercaseChar {cs : List Char} (h : ∀ c ∈ cs, c ∉ unfolded) :
    (cs.flatMap fun c => (lowercaseChar c).map fold) = cs.map fold := by
  induction cs with
  | nil => rfl
  | cons c cs ih =>
    obtain ⟨hc, h⟩ := List.forall_mem_cons.1 h
    rw [List.flatMap_cons, fold_lowercaseChar hc, ih h]
    rfl

theorem mem_lowercaseAfter {before : Bool} {cs : List Char} {d : Char} (hc : c ∈ cs)
    (hsigma : c ≠ 'Σ') (hd : d ∈ lowercaseChar c) : d ∈ lowercaseAfter before cs := by
  induction cs generalizing before with
  | nil => cases hc
  | cons e cs ih =>
    rw [lowercaseAfter]
    rcases List.mem_cons.1 hc with rfl | hc
    · rw [if_neg hsigma]
      exact List.mem_append_left _ hd
    · exact List.mem_append_right _ (ih hc)

/-- A lowercase text in ASCII is folded as the text itself is. -/
theorem map_fold_lowercase {cs : List Char} (h : ∀ d ∈ lowercase cs, d.toNat < 128) :
    (lowercase cs).map fold = cs.map fold := by
  rw [lowercase, map_fold_lowercaseAfter]
  apply flatMap_fold_lowercaseChar
  intro c hc hmem
  obtain ⟨d, hd, hle⟩ := exists_of_mem_unfolded hmem
  have hsigma : c ≠ 'Σ' := by
    rintro rfl
    exact absurd hmem (by decide)
  have hlt := h d (mem_lowercaseAfter hc hsigma hd)
  omega

theorem lowercaseChar_ne_nil (c : Char) : lowercaseChar c ≠ [] := by
  unfold lowercaseChar
  split <;> exact List.cons_ne_nil _ _

/-- Texts with the same lowercase are folded to the same text. -/
theorem map_fold_of_lowercase {s t : List Char} (hsame : SameUnfolded s t)
    (h : lowercase s = lowercase t) : s.map fold = t.map fold := by
  have hfolded := congrArg (List.map fold) h
  rw [lowercase, lowercase, map_fold_lowercaseAfter, map_fold_lowercaseAfter] at hfolded
  clear h
  induction s generalizing t with
  | nil =>
    cases t with
    | nil => rfl
    | cons d t =>
      rw [List.flatMap_cons] at hfolded
      have hnil := (List.append_eq_nil_iff.1 hfolded.symm).1
      exact absurd (List.map_eq_nil_iff.1 hnil) (lowercaseChar_ne_nil d)
  | cons c s ih =>
    cases t with
    | nil =>
      rw [List.flatMap_cons] at hfolded
      have hnil := (List.append_eq_nil_iff.1 hfolded).1
      exact absurd (List.map_eq_nil_iff.1 hnil) (lowercaseChar_ne_nil c)
    | cons d t =>
      have htail : SameUnfolded s t := fun e he i => hsame e he (i + 1)
      rw [List.flatMap_cons, List.flatMap_cons] at hfolded
      rw [List.map_cons, List.map_cons]
      by_cases hmem : c ∈ unfolded ∨ d ∈ unfolded
      · have hcd : c = d := by
          rcases hmem with hc | hd
          · exact (Option.some.inj ((hsame c hc 0).1 rfl)).symm
          · exact Option.some.inj ((hsame d hd 0).2 rfl)
        rw [hcd] at hfolded ⊢
        rw [ih htail (List.append_cancel_left hfolded)]
      · obtain ⟨hc, hd⟩ := not_or.1 hmem
        rw [fold_lowercaseChar hc, fold_lowercaseChar hd] at hfolded
        obtain ⟨hhead, hrest⟩ := List.cons.inj hfolded
        rw [hhead, ih htail hrest]

end FilterQuery.Unicode
