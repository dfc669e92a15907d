import FilterQuery.LikePattern
import FilterQuery.Unicode.Lowercase

/-!
# The case of letters in ASCII

Texts that differ only in the case of letters in ASCII have the same lowercase and are folded to the same
text. For the lowercase this needs more than the lowercase of each letter: a capital sigma looks at the
characters around it, which may be such letters.

* `AsciiAlike` : texts that differ in nothing else;
* `apply_toLower` : what holds of the 26 letters is lifted to all characters;
* `lowercase_of_asciiAlike`, `map_fold_of_asciiAlike` : the lowercase and the folded text are the same;
* `star_mem_of_asciiAlike` : and so is whether there is a star;
* `LawfulPatternSize` : and so should be the size of a pattern in which case does not count.
-/

set_option autoImplicit false

namespace FilterQuery

/-- Characters other than the capital letters of ASCII are left as they are. -/
theorem toLower_of_isUpper {c : Char} (h : c.isUpper = false) : c.toLower = c := by
  unfold Char.toLower
  split
  · next hupper => exact absurd hupper (of_decide_eq_false h)
  · rfl

theorem isUpper_of_isDigit {c : Char} (h : c.isDigit) : c.isUpper = false := by
  have hle : c.toNat ≤ 57 := (Char.isDigit_iff_toNat.1 h).2
  refine decide_eq_false ?_
  rintro ⟨hge, -⟩
  have hge : 65 ≤ c.toNat := hge
  omega

namespace Unicode

/-- The texts differ only in the case of letters in ASCII. -/
def AsciiAlike (s t : List Char) : Prop := s.map Char.toLower = t.map Char.toLower

instance (s t : List Char) : Decidable (AsciiAlike s t) := inferInstanceAs (Decidable (_ = _))

/-! ### Single characters -/

/-- The capital letters of ASCII. -/
def capitals : List Char := (List.range' 65 26).map Char.ofNat

theorem mem_capitals {c : Char} (h : c.isUpper) : c ∈ capitals := by
  have hrange : 65 ≤ c.toNat ∧ c.toNat ≤ 90 := of_decide_eq_true h
  refine List.mem_map.2 ⟨c.toNat, ?_, Char.ofNat_toNat c⟩
  rw [List.mem_range'_1]
  omega

/-- What is the same for each capital letter and its small letter is the same for each character and its
small letter. -/
theorem apply_toLower {β : Type} [DecidableEq β] {f : Char → β}
    (h : capitals.all fun c => f c.toLower = f c) (c : Char) : f c.toLower = f c := by
  cases hc : c.isUpper with
  | false => rw [toLower_of_isUpper hc]
  | true => exact of_decide_eq_true (List.all_eq_true.1 h c (mem_capitals hc))

theorem isCased_toLower : ∀ c : Char, isCased c.toLower = isCased c :=
  apply_toLower (by decide +kernel)

/-- Casing looks through no letter of ASCII: the table has no range that meets them. -/
theorem isIgnorable_of_letter {c : Char}
    (h : 65 ≤ c.toNat ∧ c.toNat ≤ 90 ∨ 97 ≤ c.toNat ∧ c.toNat ≤ 122) : isIgnorable c = false := by
  have htable : ignorableTable.all fun r => r.2 < 65 || 122 < r.1 || (90 < r.1 && r.2 < 97) := by
    decide +kernel
  rw [isIgnorable, inRanges, List.any_eq_false]
  intro r hr
  have hmisses := List.all_eq_true.1 htable r hr
  simp only [Bool.or_eq_true, Bool.and_eq_true, decide_eq_true_eq] at hmisses ⊢
  omega

theorem isIgnorable_toLower (c : Char) : isIgnorable c.toLower = isIgnorable c := by
  cases hc : c.isUpper with
  | false => rw [toLower_of_isUpper hc]
  | true =>
    have hcapital := of_decide_eq_true hc
    have hsmall : capitals.all fun c => 97 ≤ c.toLower.toNat ∧ c.toLower.toNat ≤ 122 := by decide
    have hlower := of_decide_eq_true (List.all_eq_true.1 hsmall c (mem_capitals hc))
    rw [isIgnorable_of_letter (.inl hcapital), isIgnorable_of_letter (.inr hlower)]

theorem lowercaseChar_toLower : ∀ c : Char, lowercaseChar c.toLower = lowercaseChar c :=
  apply_toLower (by decide +kernel)

theorem fold_toLower : ∀ c : Char, fold c.toLower = fold c :=
  apply_toLower (by decide +kernel)

theorem utf8Size_toLower : ∀ c : Char, c.toLower.utf8Size = c.utf8Size :=
  apply_toLower (by decide +kernel)

/-- No letter of ASCII is the given character, nor becomes it. -/
theorem toLower_eq_iff {d : Char} (h : capitals.all fun c => decide (c.toLower = d) = decide (c = d))
    (c : Char) : c.toLower = d ↔ c = d :=
  decide_eq_decide.1 (apply_toLower (f := fun c => decide (c = d)) h c)

/-! ### Texts -/

theorem startsCased_map_toLower (cs : List Char) :
    startsCased (cs.map Char.toLower) = startsCased cs := by
  have hignorable : (fun c => ! isIgnorable c) ∘ Char.toLower = fun c => ! isIgnorable c :=
    funext fun c => congrArg (! ·) (isIgnorable_toLower c)
  unfold startsCased
  rw [List.find?_map, hignorable]
  cases cs.find? fun c => ! isIgnorable c with
  | none => rfl
  | some c => exact isCased_toLower c

theorem endsCased_toLower (before : Bool) (c : Char) :
    endsCased before c.toLower = endsCased before c := by
  rw [endsCased, isIgnorable_toLower, isCased_toLower]
  rfl

theorem lowercaseAfter_map_toLower (before : Bool) (cs : List Char) :
    lowercaseAfter before (cs.map Char.toLower) = lowercaseAfter before cs := by
  induction cs generalizing before with
  | nil => rfl
  | cons c cs ih =>
    have hsigma : c.toLower = 'Σ' ↔ c = 'Σ' := toLower_eq_iff (by decide +kernel) c
    rw [List.map_cons, lowercaseAfter, lowercaseAfter, ih, endsCased_toLower, startsCased_map_toLower,
      lowercaseChar_toLower]
    simp only [hsigma]

variable {s t : List Char}

theorem lowercase_of_asciiAlike (h : AsciiAlike s t) : lowercase s = lowercase t := by
  rw [lowercase, ← lowercaseAfter_map_toLower, h, lowercaseAfter_map_toLower]
  rfl

theorem map_fold_of_asciiAlike (h : AsciiAlike s t) : s.map fold = t.map fold := by
  have hfold : fold ∘ Char.toLower = fold := funext fold_toLower
  rw [← hfold, ← List.map_map, h, List.map_map]

/-! ### Patterns -/

theorem star_mem_of_asciiAlike (h : AsciiAlike s t) : star ∈ s ↔ star ∈ t := by
  have hstar (cs : List Char) : star ∈ cs.map Char.toLower ↔ star ∈ cs := by
    rw [List.mem_map]
    constructor
    · rintro ⟨c, hc, heq⟩
      rwa [← (toLower_eq_iff (by decide +kernel) c).1 heq]
    · exact fun hc => ⟨star, hc, by decide⟩
  rw [← hstar s, h, hstar t]

end Unicode

/-- Where case does not count, the case of letters in ASCII makes no pattern larger. -/
class LawfulPatternSize [PatternSize] : Prop where
  patternSize_of_asciiAlike {s t : List Char} :
    Unicode.AsciiAlike s t → patternSize s true = patternSize t true

namespace PatternSize
open Unicode

theorem estimate_map_toLower (cs : List Char) :
    estimate.patternSize (cs.map Char.toLower) true = estimate.patternSize cs true := by
  have hlength : byteLength (cs.map Char.toLower) = byteLength cs := by
    induction cs with
    | nil => rfl
    | cons c cs ih => rw [List.map_cons, byteLength_cons, byteLength_cons, utf8Size_toLower, ih]
  have hcount : (cs.map Char.toLower).count star = cs.count star := by
    rw [List.count, List.countP_map]
    apply List.countP_congr
    intro c _
    rw [Function.comp_apply, beq_iff_eq, beq_iff_eq]
    exact toLower_eq_iff (by decide +kernel) c
  show 24 * byteLength (cs.map Char.toLower) + 420 * (cs.map Char.toLower).count star = _
  rw [hlength, hcount]
  rfl

instance estimate_lawful : LawfulPatternSize where
  patternSize_of_asciiAlike {s t} h := by
    rw [← estimate_map_toLower s, h, estimate_map_toLower t]

end PatternSize
end FilterQuery
