import FilterQuery.Proofs.Lexeme.Munch
import Mathlib.Data.List.Basic

/-!
# Cutting texts that are put together

* `IsLongest.congr_head` : the character after a lexeme decides whether it is the longest one;
* `cutFrom_append`, `cutFrom_between` : a text is cut as its parts are, if the last lexeme of the first
  part does not go on in the second;
* `exists_cutFrom_split` : a text that is cut can be taken apart before and after each of its lexemes;
* `exists_stuck_of_cutFrom` : where cutting stops, the text before is cut, and no lexeme starts.
-/

set_option autoImplicit false

namespace FilterQuery.Lexeme

variable {l : Lexeme} {position : Nat} {text rest rest' : List Char}
  {placed : List (Nat × Lexeme)}

/-! ### What comes after a lexeme -/

theorem IsLongest.of_append (h : l.IsLongest (l.source ++ (rest ++ rest'))) :
    l.IsLongest (l.source ++ rest) := by
  obtain ⟨hl, -, hlongest⟩ := h
  refine ⟨hl, List.prefix_append _ _, ?_⟩
  intro m hm hpre
  apply hlongest m hm
  rw [← List.append_assoc]
  exact hpre.trans (List.prefix_append _ _)

theorem IsLongest.head_of_word {word : List Char}
    (h : (Lexeme.word word).IsLongest (word ++ rest)) :
    ∀ c ∈ rest.head?, isWordChar c = false := by
  intro c hc
  obtain ⟨tail, rfl⟩ : ∃ tail, rest = c :: tail := by
    cases rest with
    | nil => cases hc
    | cons d tail =>
      cases hc
      exact ⟨tail, rfl⟩
  -- a word character after the word would make it longer
  by_contra hword
  rw [Bool.not_eq_false] at hword
  have hproper : (Lexeme.word (word ++ [c])).IsProper := by
    refine ⟨by simp, ?_⟩
    intro d hd
    rcases List.mem_append.1 hd with hd | hd
    · exact h.1.2 d hd
    · rw [List.mem_singleton.1 hd]
      exact hword
  have hpre : (Lexeme.word (word ++ [c])).source <+: word ++ c :: tail := ⟨tail, by simp [source]⟩
  have := h.2.2 _ hproper hpre
  simp only [source, List.length_append, List.length_singleton] at this
  omega

theorem IsLongest.congr_head (h : l.IsLongest (l.source ++ rest))
    (hhead : rest.head? = rest'.head?) : l.IsLongest (l.source ++ rest') := by
  have ofStops (hs : l.Stops rest') : l.IsLongest (l.source ++ rest') :=
    (first?_eq_some_iff.1 (first?_append h.1 hs)).1
  cases l with
  | word word =>
    have hword := IsLongest.head_of_word h
    rw [hhead] at hword
    exact ofStops hword
  | operator symbol =>
    by_cases hs : rest.head? = some '='
    · -- only the signs that no further `=` makes longer are left, and names
      obtain ⟨r, rfl⟩ : ∃ r, rest = '=' :: r := by
        cases rest with
        | nil => cases hs
        | cons c r => exact ⟨r, by rw [Option.some.inj hs]⟩
      obtain ⟨r', rfl⟩ : ∃ r', rest' = '=' :: r' := by
        cases rest' with
        | nil => cases hhead
        | cons c r' => exact ⟨r', by rw [Option.some.inj hhead]⟩
      have hfirst := first?_eq_some_iff.2 ⟨h, rfl⟩
      have hcut : first? ((operator symbol).source ++ '=' :: r') =
          some (operator symbol, '=' :: r') := by
        rcases h.1 with hsign | ⟨name, hne, hl, rfl⟩
        · simp only [signs, List.mem_cons, List.not_mem_nil, or_false] at hsign
          rcases hsign with rfl | rfl | rfl | rfl | rfl | rfl
          · rfl
          · rfl
          · rfl
          · rfl
          all_goals cases hfirst
        · have hname := operator?_of_name hne hl ('=' :: r')
          unfold first?
          rw [source, List.append_assoc, List.singleton_append, hname]
      exact (first?_eq_some_iff.1 hcut).1
    · rw [hhead] at hs
      exact ofStops hs
  | quoted _ _ | openParen | closeParen | semicolon | comma => exact ofStops trivial

/-! ### Places -/

/-- Lexemes at places further on. -/
def shiftBy (n : Nat) (placed : List (Nat × Lexeme)) : List (Nat × Lexeme) :=
  placed.map (Prod.map (· + n) id)

theorem cutFrom_add (n : Nat) (h : cutFrom position text = .ok placed) :
    cutFrom (position + n) text = .ok (shiftBy n placed) := by
  fun_induction Lexeme.cutFrom position text generalizing placed with
  | case1 position =>
    cases h
    rw [Lexeme.cutFrom]
    rfl
  | case2 position c r hb ih =>
    rw [cutFrom_blank hb, Nat.add_right_comm]
    exact ih h
  | case3 position c r hb l rest hf ih =>
    obtain ⟨tail, htail, rfl⟩ := map_eq_ok.1 h
    obtain ⟨hl, hcs⟩ := first?_eq_some_iff.1 hf
    rw [hcs] at hl ⊢
    rw [cutFrom_lexeme hl, Nat.add_right_comm, ih htail]
    rfl
  | case4 => cases h

theorem exists_cutFrom_zero (h : cutFrom position text = .ok placed) :
    ∃ base, cutFrom 0 text = .ok base ∧ placed = shiftBy position base := by
  obtain ⟨base, hbase, -⟩ := (munch_of_cutFrom h).cutFrom 0
  have hshift := cutFrom_add position hbase
  rw [Nat.zero_add, h] at hshift
  exact ⟨base, hbase, Except.ok.inj hshift⟩

/-- A lexeme starts before the end of its text. -/
theorem lt_of_cutFrom (h : cutFrom position text = .ok placed) :
    ∀ x ∈ placed, x.1 < position + byteLength text := by
  fun_induction Lexeme.cutFrom position text generalizing placed with
  | case1 position =>
    cases h
    exact List.forall_mem_nil _
  | case2 position c r hb ih =>
    rw [byteLength_cons, ← Nat.add_assoc]
    exact ih h
  | case3 position c r hb l rest hf ih =>
    obtain ⟨tail, htail, rfl⟩ := map_eq_ok.1 h
    obtain ⟨hcs, hne⟩ := first?_eq_some hf
    have hpos := byteLength_pos hne
    rw [hcs, byteLength_append, ← Nat.add_assoc]
    refine List.forall_mem_cons.2 ⟨?_, ih htail⟩
    dsimp only
    omega
  | case4 => cases h

/-! ### Texts put together -/

theorem Munch.eq_nil {ls : List Lexeme} (h : Munch [] ls) : ls = [] :=
  h.unique .nil

/-- A text that is cut starts with a blank or with its first lexeme. -/
theorem Munch.head {c : Char} {ls : List Lexeme} (h : Munch (c :: text) ls) :
    isBlank c ∨ ∃ l ∈ ls.head?, c ∈ l.source.head? := by
  generalize hcs : c :: text = cs at h
  cases h with
  | nil => cases hcs
  | blank hb _ =>
    cases hcs
    exact .inl hb
  | @lexeme l rest ls hl _ =>
    obtain ⟨d, tail, hsource, -⟩ := hl.1.source_eq_cons
    rw [hsource] at hcs
    cases hcs
    refine .inr ⟨l, rfl, ?_⟩
    rw [hsource]
    rfl

/-- A text is cut as its parts are, if the last lexeme of the first part ends with it. -/
theorem cutFrom_append (h : cutFrom position text = .ok placed)
    (hs : ∀ x ∈ placed.getLast?, x.2.Stops rest) :
    cutFrom position (text ++ rest) =
      (cutFrom (position + byteLength text) rest).map (placed ++ ·) := by
  fun_induction Lexeme.cutFrom position text generalizing placed with
  | case1 position =>
    cases h
    cases hrest : cutFrom position rest <;> simp [hrest, Except.map]
  | case2 position c r hb ih =>
    rw [List.cons_append, cutFrom_blank hb, ih h hs, byteLength_cons, Nat.add_assoc]
  | case3 position c r hb l after hf ih =>
    obtain ⟨tail, htail, rfl⟩ := map_eq_ok.1 h
    obtain ⟨hl, hcs⟩ := first?_eq_some_iff.1 hf
    have hlast : ∀ x ∈ tail.getLast?, x.2.Stops rest := by
      intro x hx
      apply hs x
      cases tail with
      | nil => cases hx
      | cons y tail => rwa [List.getLast?_cons_cons]
    have hlongest : l.IsLongest (l.source ++ (after ++ rest)) := by
      cases after with
      | nil =>
        -- the text ends with `l`, so nothing but what `rest` starts with can make it longer
        have htail' : tail = [] := by
          have := munch_of_cutFrom htail
          exact List.map_eq_nil_iff.1 this.eq_nil
        subst htail'
        exact (first?_eq_some_iff.1 (first?_append hl.1 (hs _ rfl))).1
      | cons d after =>
        rw [hcs] at hl
        exact hl.congr_head rfl
    rw [hcs, List.append_assoc, cutFrom_lexeme hlongest, ih htail hlast, byteLength_append,
      ← Nat.add_assoc]
    cases cutFrom (position + byteLength l.source + byteLength after) rest <;> rfl
  | case4 => cases h

/-- A lexeme between two texts. -/
theorem cutFrom_between {front back : List Char} {before after : List (Nat × Lexeme)}
    (hfront : cutFrom 0 front = .ok before) (hback : cutFrom 0 back = .ok after)
    (hl : l.IsProper) (hbefore : ∀ x ∈ before.getLast?, x.2.Stops (l.source ++ back))
    (hafter : l.Stops back) :
    cutFrom 0 (front ++ (l.source ++ back)) =
      .ok (before ++ (byteLength front, l) ::
        shiftBy (byteLength front + byteLength l.source) after) := by
  have hlongest := (first?_eq_some_iff.1 (first?_append hl hafter)).1
  have hshift := cutFrom_add (byteLength front + byteLength l.source) hback
  rw [Nat.zero_add] at hshift
  rw [cutFrom_append hfront hbefore, Nat.zero_add, cutFrom_lexeme hlongest, hshift]
  rfl

/-- A text that is cut, taken apart at one of its lexemes. -/
theorem exists_cutFrom_split {before after : List (Nat × Lexeme)} {start : Nat}
    (h : cutFrom position text = .ok (before ++ (start, l) :: after)) :
    ∃ front back, text = front ++ (l.source ++ back) ∧ start = position + byteLength front ∧
      cutFrom position front = .ok before ∧ l.IsLongest (l.source ++ back) ∧
      cutFrom (start + byteLength l.source) back = .ok after := by
  fun_induction Lexeme.cutFrom position text generalizing before with
  | case1 position => simp at h
  | case2 position c r hb ih =>
    obtain ⟨front, back, rfl, rfl, hfront, hl, hback⟩ := ih h
    refine ⟨c :: front, back, rfl, ?_, ?_, hl, hback⟩
    · rw [byteLength_cons, Nat.add_assoc]
    · rw [cutFrom_blank hb]
      exact hfront
  | case3 position c r hb m rest hf ih =>
    obtain ⟨tail, htail, hplaced⟩ := map_eq_ok.1 h
    obtain ⟨hm, hcs⟩ := first?_eq_some_iff.1 hf
    cases before with
    | nil =>
      obtain ⟨hhead, rfl⟩ := List.cons.inj hplaced
      cases hhead
      rw [hcs] at hm
      exact ⟨[], rest, hcs, rfl, by rw [Lexeme.cutFrom], hm, htail⟩
    | cons x before =>
      obtain ⟨rfl, rfl⟩ := List.cons.inj hplaced
      obtain ⟨front, back, rfl, rfl, hfront, hl, hback⟩ := ih htail
      rw [hcs] at hm
      refine ⟨m.source ++ front, back, ?_, ?_, ?_, hl, hback⟩
      · rw [hcs, List.append_assoc]
      · rw [byteLength_append, Nat.add_assoc]
      · rw [cutFrom_lexeme hm.of_append, hfront]
        rfl
  | case4 => cases h

/-! ### Where cutting stops -/

/-- The text before the character where cutting stops is cut, and no lexeme starts there. -/
theorem exists_stuck_of_cutFrom {e : LexError} (h : cutFrom position text = .error e) :
    ∃ before after, text = before ++ e.unexpected :: after ∧
      e.position = position + byteLength before ∧ (∃ placed, cutFrom position before = .ok placed) ∧
      isBlank e.unexpected = false ∧ first? (e.unexpected :: after) = none := by
  fun_induction Lexeme.cutFrom position text with
  | case1 => cases h
  | case2 position c r hb ih =>
    obtain ⟨before, after, rfl, hposition, ⟨placed, hbefore⟩, hstuck⟩ := ih h
    refine ⟨c :: before, after, rfl, ?_, ⟨placed, ?_⟩, hstuck⟩
    · rw [hposition, byteLength_cons, Nat.add_assoc]
    · rw [cutFrom_blank hb]
      exact hbefore
  | case3 position c r hb l rest hf ih =>
    have htail : cutFrom (position + byteLength l.source) rest = .error e := by
      cases hcut : cutFrom (position + byteLength l.source) rest with
      | error e' =>
        rw [hcut] at h
        cases h
        rfl
      | ok placed =>
        rw [hcut] at h
        cases h
    obtain ⟨before, after, rfl, hposition, ⟨placed, hbefore⟩, hstuck⟩ := ih htail
    obtain ⟨hl, hcs⟩ := first?_eq_some_iff.1 hf
    rw [hcs] at hl
    refine ⟨l.source ++ before, after, ?_, ?_, ⟨(position, l) :: placed, ?_⟩, hstuck⟩
    · rw [hcs, List.append_assoc]
    · rw [hposition, byteLength_append, Nat.add_assoc]
    · rw [cutFrom_lexeme hl.of_append, hbefore]
      rfl
  | case4 position c r hb hf =>
    cases h
    have hstart : cutFrom position [] = .ok [] := by rw [Lexeme.cutFrom]
    exact ⟨[], r, rfl, rfl, ⟨[], hstart⟩, by simpa using hb, hf⟩

end FilterQuery.Lexeme
