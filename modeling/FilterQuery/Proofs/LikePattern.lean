import FilterQuery.Proofs.Unicode.Fold
import Mathlib.Data.List.Forall2

/-!
# What patterns match

Searching for the first place of each piece finds a way to fill in the stars whenever there is one.

* `Fills` : a text is what the pieces become when each star between them is replaced by some text;
* `matchesPieces_iff` : that is what matching decides;
* `LikePattern.accepts_of_view_eq` : a pattern matches its own source;
* `LikePattern.accepts_iff` : for patterns, whose characters stand for themselves and, where case does
  not count, for all that are folded to the same.
-/

set_option autoImplicit false

namespace FilterQuery

/-- A text is made up of the pieces, with some text between each and the next. -/
inductive Fills (same : Char → Char → Prop) : (pieces : List (List Char)) → (text : List Char) → Prop
  | last {piece text : List Char} : piece.Forall₂ same text → Fills same [piece] text
  | star {piece found : List Char} {pieces : List (List Char)} {text : List Char}
      (between : List Char) : piece.Forall₂ same found → Fills same pieces text →
      Fills same (piece :: pieces) (found ++ between ++ text)

namespace LikePattern

/-! ### Finding one piece -/

variable {piece text rest : List Char} {pieces : List (List Char)}

theorem after?_eq_some : after? piece text = some rest ↔ text = piece ++ rest := by
  induction piece generalizing text with
  | nil => simp [after?]
  | cons p ps ih =>
    cases text with
    | nil => simp [after?]
    | cons c cs =>
      rw [after?]
      split
      · next hp => simp [ih, hp]
      · next hp => simp [Ne.symm hp]

theorem afterFirst?_of_after? (h : after? piece text = some rest) :
    afterFirst? piece text = some rest := by
  cases text with
  | nil => exact h
  | cons c cs => rw [afterFirst?, h]

/-- A place where the piece is found. -/
theorem afterFirst?_eq_some (h : afterFirst? piece text = some rest) :
    ∃ before, text = before ++ (piece ++ rest) := by
  induction text with
  | nil =>
    have hnil := after?_eq_some.1 h
    exact ⟨[], hnil⟩
  | cons c cs ih =>
    rw [afterFirst?] at h
    split at h
    · next hafter =>
      cases h
      have htext := after?_eq_some.1 hafter
      exact ⟨[], htext⟩
    · obtain ⟨before, hcs⟩ := ih h
      exact ⟨c :: before, by rw [hcs]; rfl⟩

/-- Where the piece stands at all, it is found there or earlier. -/
theorem exists_afterFirst? (before : List Char) : ∃ between,
    afterFirst? piece (before ++ (piece ++ rest)) = some (between ++ rest) := by
  induction before with
  | nil => exact ⟨[], afterFirst?_of_after? (after?_eq_some.2 rfl)⟩
  | cons c before ih =>
    rw [List.cons_append, afterFirst?]
    cases hafter : after? piece (c :: (before ++ (piece ++ rest))) with
    | none => exact ih
    | some found =>
      have htext := after?_eq_some.1 hafter
      have hlength := congrArg List.length htext
      simp only [List.length_cons, List.length_append] at hlength
      have hrest : rest <:+ piece ++ found := by
        rw [← htext]
        exact ⟨c :: (before ++ piece), by simp⟩
      obtain ⟨between, hfound⟩ :=
        List.suffix_of_suffix_length_le hrest (List.suffix_append piece found) (by omega)
      exact ⟨between, by rw [hfound]⟩

/-! ### Finding all pieces -/

theorem fills_singleton : Fills Eq [piece] text ↔ text = piece := by
  constructor
  · intro h
    cases h with
    | last h => exact (List.forall₂_eq_eq_eq ▸ h).symm
    | star _ _ h => cases h
  · rintro rfl
    exact .last (by rw [List.forall₂_eq_eq_eq])

theorem fills_cons (hne : pieces ≠ []) : Fills Eq (piece :: pieces) text ↔
    ∃ between rest, text = piece ++ (between ++ rest) ∧ Fills Eq pieces rest := by
  constructor
  · intro h
    cases h with
    | last => exact absurd rfl hne
    | star between hpiece hrest =>
      rw [List.forall₂_eq_eq_eq] at hpiece
      exact ⟨between, _, by rw [hpiece, List.append_assoc], hrest⟩
  · rintro ⟨between, rest, rfl, hrest⟩
    rw [← List.append_assoc]
    exact .star between (by rw [List.forall₂_eq_eq_eq]) hrest

/-- Matching after a star finds a way to go on if there is one, by induction on the pieces to come. -/
theorem matchesAfterStar_iff (hne : pieces ≠ []) :
    matchesAfterStar pieces text ↔
      ∃ between rest, text = between ++ rest ∧ Fills Eq pieces rest := by
  induction pieces generalizing text with
  | nil => exact absurd rfl hne
  | cons piece pieces ih =>
    match pieces with
    | [] =>
      rw [matchesAfterStar, List.isSuffixOf_iff_suffix]
      constructor
      · rintro ⟨between, rfl⟩
        exact ⟨between, piece, rfl, fills_singleton.2 rfl⟩
      · rintro ⟨between, rest, rfl, hrest⟩
        exact ⟨between, by rw [fills_singleton.1 hrest]⟩
    | next :: pieces =>
      have hmore : next :: pieces ≠ [] := List.cons_ne_nil _ _
      rw [matchesAfterStar]
      · constructor
        · intro h
          split at h
          · next found hfirst =>
            obtain ⟨before, rfl⟩ := afterFirst?_eq_some hfirst
            obtain ⟨between, rest, rfl, hrest⟩ := (ih hmore).1 h
            exact ⟨before, _, rfl, (fills_cons hmore).2 ⟨between, rest, rfl, hrest⟩⟩
          · cases h
        · rintro ⟨before, filled, rfl, hfilled⟩
          obtain ⟨between, rest, rfl, hrest⟩ := (fills_cons hmore).1 hfilled
          obtain ⟨more, hfirst⟩ := exists_afterFirst? before
          rw [hfirst]
          exact (ih hmore).2 ⟨more ++ between, rest, (List.append_assoc ..).symm, hrest⟩
      · exact hmore

theorem matchesPieces_singleton :
    matchesPieces [piece] text ↔ ∃ before after, text = before ++ (piece ++ after) := by
  rw [matchesPieces, Option.isSome_iff_exists]
  constructor
  · rintro ⟨after, h⟩
    obtain ⟨before, htext⟩ := afterFirst?_eq_some h
    exact ⟨before, after, htext⟩
  · rintro ⟨before, after, rfl⟩
    obtain ⟨between, h⟩ := exists_afterFirst? before
    exact ⟨_, h⟩

theorem matchesPieces_iff (hne : pieces ≠ []) :
    matchesPieces (piece :: pieces) text ↔ Fills Eq (piece :: pieces) text := by
  rw [fills_cons hne, matchesPieces]
  · constructor
    · intro h
      split at h
      · next found hafter =>
        obtain ⟨between, rest, rfl, hrest⟩ := (matchesAfterStar_iff hne).1 h
        exact ⟨between, rest, after?_eq_some.1 hafter, hrest⟩
      · cases h
    · rintro ⟨between, rest, rfl, hrest⟩
      rw [after?_eq_some.2 rfl]
      exact (matchesAfterStar_iff hne).2 ⟨between, rest, rfl, hrest⟩
  · exact hne

/-- A text is filled by its own pieces: the stars between them stand for themselves. -/
theorem fills_intercalate (hne : pieces ≠ []) : Fills Eq pieces ([star].intercalate pieces) := by
  induction pieces with
  | nil => exact absurd rfl hne
  | cons piece pieces ih =>
    match pieces with
    | [] => exact fills_singleton.2 (by simp)
    | next :: pieces =>
      have hmore : next :: pieces ≠ [] := List.cons_ne_nil _ _
      rw [List.intercalate_cons_cons, List.append_assoc]
      exact (fills_cons hmore).2 ⟨[star], _, rfl, ih hmore⟩

theorem matchesPieces_splitOn (text : List Char) : matchesPieces (text.splitOn star) text := by
  obtain ⟨piece, pieces, hsplit⟩ := List.exists_cons_of_ne_nil (List.splitOn_ne_nil star text)
  have htext : [star].intercalate (text.splitOn star) = text := List.intercalate_splitOn star
  rw [hsplit] at htext ⊢
  by_cases hne : pieces = []
  · subst hne
    exact matchesPieces_singleton.2 ⟨[], [], by simpa using htext.symm⟩
  · rw [matchesPieces_iff hne, ← htext]
    exact fills_intercalate (List.cons_ne_nil _ _)

/-! ### Telling characters apart -/

theorem forall₂_map_eq {f : Char → Char} {s t : List Char} :
    s.map f = t.map f ↔ s.Forall₂ (fun c d => f c = f d) t := by
  rw [← List.forall₂_eq_eq_eq, List.forall₂_map_left_iff, List.forall₂_map_right_iff]

/-- Filling in the stars of mapped pieces, along the recursion of `Fills`. -/
theorem fills_map {f : Char → Char} :
    Fills Eq (pieces.map (·.map f)) (text.map f) ↔ Fills (fun c d => f c = f d) pieces text := by
  constructor
  · intro h
    induction pieces generalizing text with
    | nil => cases h
    | cons piece pieces ih =>
      by_cases hne : pieces = []
      · subst hne
        exact .last (forall₂_map_eq.1 (fills_singleton.1 h).symm)
      · obtain ⟨between, rest, htext, hrest⟩ := (fills_cons (mt List.map_eq_nil_iff.1 hne)).1 h
        obtain ⟨found, more, rfl, hfound, hmore⟩ := List.map_eq_append_iff.1 htext
        obtain ⟨between', rest', rfl, -, rfl⟩ := List.map_eq_append_iff.1 hmore
        rw [← List.append_assoc]
        exact .star between' (forall₂_map_eq.1 hfound.symm) (ih hrest)
  · intro h
    induction h with
    | last hpiece => exact .last (List.forall₂_eq_eq_eq ▸ forall₂_map_eq.2 hpiece)
    | star between hpiece _ ih =>
      rw [List.map_append, List.map_append]
      exact .star _ (List.forall₂_eq_eq_eq ▸ forall₂_map_eq.2 hpiece) ih

variable (p : LikePattern)

/-- What the pattern tells a character apart by. -/
def letter (c : Char) : Char := if p.caseInsensitive then Unicode.fold c else c

/-- The pattern does not tell two characters apart. -/
def Same (c d : Char) : Prop := p.letter c = p.letter d

theorem view_eq_map (text : List Char) : p.view text = text.map p.letter := by
  unfold view letter
  split <;> simp

theorem letter_eq_star {c : Char} : p.letter c = star ↔ c = star := by
  unfold letter
  split
  · exact Unicode.fold_eq_star
  · rfl

/-- The stars of a pattern are where they are in its source. -/
theorem splitOn_map_letter (source : List Char) :
    (source.map p.letter).splitOn star = (source.splitOn star).map (·.map p.letter) := by
  induction source with
  | nil => rfl
  | cons c cs ih =>
    rw [List.map_cons, List.splitOn_cons_eq_if_modifyHead, List.splitOn_cons_eq_if_modifyHead, ih]
    by_cases hc : c = star
    · rw [if_pos (beq_iff_eq.2 hc), if_pos (beq_iff_eq.2 (p.letter_eq_star.2 hc))]
      rfl
    · rw [if_neg (mt beq_iff_eq.1 hc), if_neg (mt beq_iff_eq.1 (mt p.letter_eq_star.1 hc))]
      cases cs.splitOn star <;> rfl

/-- A text with a star has more than one piece. -/
theorem exists_splitOn {source : List Char} (h : star ∈ source) :
    ∃ piece pieces, pieces ≠ [] ∧ source.splitOn star = piece :: pieces := by
  obtain ⟨front, back, rfl⟩ := List.append_of_mem h
  obtain ⟨piece, pieces, hfront⟩ := List.exists_cons_of_ne_nil (List.splitOn_ne_nil star front)
  refine ⟨piece, pieces ++ back.splitOn star, ?_, ?_⟩
  · exact List.append_ne_nil_of_right_ne_nil _ (List.splitOn_ne_nil star back)
  · rw [List.splitOn_append_cons_self, hfront]
    rfl

/-- A pattern matches the texts that it does not tell apart from its source. -/
theorem accepts_of_view_eq {text : List Char} (h : p.view text = p.view p.source.toList) :
    p.accepts text := by
  rw [accepts, h]
  exact matchesPieces_splitOn _

/-- A pattern with stars matches the texts that it becomes when each star is replaced by some text; one
without matches the texts that contain it. -/
theorem accepts_iff (text : List Char) : p.accepts text ↔
    if star ∈ p.source.toList then Fills p.Same (p.source.toList.splitOn star) text
    else ∃ before found after, text = before ++ (found ++ after) ∧
      p.source.toList.Forall₂ p.Same found := by
  rw [accepts, view_eq_map, view_eq_map, splitOn_map_letter]
  split
  · next hstar =>
    obtain ⟨piece, pieces, hne, hsplit⟩ := exists_splitOn hstar
    rw [hsplit, List.map_cons, matchesPieces_iff (mt List.map_eq_nil_iff.1 hne), ← List.map_cons]
    exact fills_map
  · next hstar =>
    rw [List.splitOn_eq_singleton hstar, List.map_singleton, matchesPieces_singleton]
    constructor
    · rintro ⟨before, after, htext⟩
      obtain ⟨before', more, rfl, -, hmore⟩ := List.map_eq_append_iff.1 htext
      obtain ⟨found, after', rfl, hfound, -⟩ := List.map_eq_append_iff.1 hmore
      exact ⟨before', found, after', rfl, forall₂_map_eq.1 hfound.symm⟩
    · rintro ⟨before, found, after, rfl, hfound⟩
      exact ⟨_, _, by rw [List.map_append, List.map_append, forall₂_map_eq.2 hfound]⟩

example : (⟨"A*ab", true⟩ : LikePattern).accepts "aXab\nAB".toList := by decide +kernel

end LikePattern
end FilterQuery
