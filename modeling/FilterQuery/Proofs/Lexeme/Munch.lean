import FilterQuery.Lexeme
import FilterQuery.Proofs.Basic

/-!
# The longest lexeme at each place

* `Lexeme.IsBody`, `Lexeme.IsProper` : the texts that lexemes stand for;
* `Lexeme.Stops` : what follows a lexeme does not make it longer;
* `Lexeme.first?_eq_some_iff` : the lexeme that a text starts with is the longest one it starts with;
* `Lexeme.Munch` : a text is blanks and lexemes, each the longest at its place, and
  `Lexeme.munch_iff_cut`, that cutting finds them.
-/

set_option autoImplicit false

namespace FilterQuery.Lexeme

/-- The texts between two marks: no mark in them but behind a backslash, and no lone backslash. -/
inductive IsBody (mark : Char) : List Char → Prop
  | nil : IsBody mark []
  | escaped {c : Char} {body : List Char} : IsBody mark body → IsBody mark ('\\' :: c :: body)
  | plain {c : Char} {body : List Char} : c ≠ mark → c ≠ '\\' → IsBody mark body →
      IsBody mark (c :: body)

/-- The comparison signs. -/
def signs : List (List Char) :=
  [['=', '='], ['!', '='], ['>', '='], ['<', '='], ['>'], ['<']]

/-- The lexemes of the notation. -/
def IsProper : Lexeme → Prop
  | word text => text ≠ [] ∧ ∀ c ∈ text, isWordChar c
  | quoted mark body => (mark = '"' ∨ mark = '\'') ∧ IsBody mark body
  | operator symbol => symbol ∈ signs ∨
      ∃ name, name ≠ [] ∧ (∀ c ∈ name, isLetter c) ∧ symbol = '=' :: name ++ ['=']
  | openParen | closeParen | semicolon | comma => True

/-- The text after a lexeme does not make it longer. -/
def Stops : Lexeme → List Char → Prop
  | word _, rest => ∀ c ∈ rest.head?, isWordChar c = false
  | operator _, rest => rest.head? ≠ some '='
  | _, _ => True

theorem stops_nil (l : Lexeme) : l.Stops [] := by
  cases l <;> simp [Stops]

/-! ### Quoted texts -/

theorem quoted?_of_isBody {mark : Char} {body : List Char} (hm : mark ≠ '\\')
    (h : IsBody mark body) (read rest : List Char) :
    quoted? mark read (body ++ mark :: rest) = some (read.reverse ++ body, rest) := by
  induction h generalizing read with
  | nil =>
    rw [List.nil_append, List.append_nil, quoted?.eq_3 _ _ _ _ (fun _ _ h => absurd h hm),
      if_pos rfl]
  | escaped _ ih =>
    rw [List.cons_append, List.cons_append, quoted?, ih]
    simp
  | plain hc hb _ ih =>
    rw [List.cons_append, quoted?.eq_3 _ _ _ _ (fun _ _ h => absurd h hb), if_neg hc, if_neg hb, ih]
    simp

theorem isBody_of_quoted? {mark : Char} {read cs body rest : List Char}
    (h : quoted? mark read cs = some (body, rest)) :
    ∃ tail, body = read.reverse ++ tail ∧ cs = tail ++ mark :: rest ∧ IsBody mark tail := by
  fun_induction quoted? mark read cs with
  | case1 => cases h
  | case2 read c r ih =>
    obtain ⟨tail, hb, hc, ht⟩ := ih h
    exact ⟨'\\' :: c :: tail, by simp [hb], by simp [hc], .escaped ht⟩
  | case3 read c r =>
    simp only [Option.some.injEq, Prod.mk.injEq] at h
    exact ⟨[], by simp [h.1], by simp [h.2], .nil⟩
  | case4 => cases h
  | case5 read c r _ hc hb ih =>
    obtain ⟨tail, hbody, hr, ht⟩ := ih h
    exact ⟨c :: tail, by simp [hbody], by simp [hr], .plain hc hb ht⟩

/-! ### Words and names -/

theorem operator?_of_isWordChar {c : Char} {r : List Char} (h : isWordChar c) :
    operator? (c :: r) = none := by
  have hc : c ≠ '=' ∧ c ≠ '!' ∧ c ≠ '>' ∧ c ≠ '<' := by
    refine ⟨?_, ?_, ?_, ?_⟩ <;> rintro rfl <;> revert h <;> decide
  unfold operator?
  split <;> simp_all

theorem first?_of_isWordChar {c : Char} {r : List Char} (h : isWordChar c) :
    first? (c :: r) = some (word (c :: r.takeWhile isWordChar), r.dropWhile isWordChar) := by
  rw [first?, operator?_of_isWordChar h]
  dsimp only
  · rw [if_pos h]
  all_goals
    rintro rfl
    revert h
    decide

theorem operator?_of_name {name : List Char} (hne : name ≠ []) (hl : ∀ c ∈ name, isLetter c)
    (rest : List Char) :
    operator? ('=' :: name ++ '=' :: rest) = some ('=' :: name ++ ['='], rest) := by
  have hstop : ∀ c ∈ ('=' :: rest).head?, isLetter c = false := by
    intro c hc
    cases hc
    decide
  obtain ⟨c, name, rfl⟩ := List.exists_cons_of_ne_nil hne
  have hc : c ≠ '=' := by
    rintro rfl
    exact absurd (hl '=' List.mem_cons_self) (by decide)
  unfold operator?
  split
  case h_1 heq =>
    simp only [List.cons_append, List.cons.injEq, true_and] at heq
    exact absurd heq.1 hc
  case h_7 heq =>
    simp only [List.cons_append, List.cons.injEq, true_and] at heq
    subst heq
    rw [← List.cons_append, takeWhile_append_of_stop hl hstop, dropWhile_append_of_stop hl hstop]
    rfl
  all_goals simp_all

theorem first?_of_operator {symbol rest : List Char} (h : (operator symbol).IsProper)
    (hs : rest.head? ≠ some '=') :
    first? (symbol ++ rest) = some (operator symbol, rest) := by
  have : operator? (symbol ++ rest) = some (symbol, rest) := by
    rcases h with h | ⟨name, hne, hl, rfl⟩
    · simp only [signs, List.mem_cons, List.not_mem_nil, or_false] at h
      rcases h with rfl | rfl | rfl | rfl | rfl | rfl
      · rfl
      · rfl
      · rfl
      · rfl
      all_goals
        cases rest with
        | nil => rfl
        | cons c rest =>
          have hc : c ≠ '=' := by simpa using hs
          unfold operator?
          split <;> simp_all
    · have := operator?_of_name hne hl rest
      rwa [List.append_assoc]
  unfold first?
  rw [this]

/-! ### The lexeme that a text starts with -/

theorem first?_append {l : Lexeme} {rest : List Char} (h : l.IsProper) (hs : l.Stops rest) :
    first? (l.source ++ rest) = some (l, rest) := by
  cases l with
  | word text =>
    obtain ⟨c, text, rfl⟩ := List.exists_cons_of_ne_nil h.1
    obtain ⟨hc, ht⟩ := List.forall_mem_cons.1 h.2
    rw [source, List.cons_append, first?_of_isWordChar hc, takeWhile_append_of_stop ht hs,
      dropWhile_append_of_stop ht hs]
  | quoted mark body =>
    obtain ⟨rfl | rfl, hb⟩ := h
    all_goals
      have := quoted?_of_isBody (by decide) hb [] rest
      rw [source, List.append_assoc, List.singleton_append, List.cons_append, first?]
      dsimp only [operator?]
      rw [this]
      rfl
  | operator symbol => exact first?_of_operator h hs
  | openParen | closeParen | semicolon | comma => rfl

theorem isProper_of_operator? {cs symbol rest : List Char}
    (h : operator? cs = some (symbol, rest)) : (operator symbol).IsProper := by
  unfold operator? at h
  split at h
  case h_7 r _ =>
    dsimp only at h
    split at h
    · split at h
      · cases h
      · next hne =>
        cases h
        have hletters : ∀ c ∈ r.takeWhile isLetter, isLetter c := by
          intro c hc
          exact List.mem_takeWhile_imp hc
        exact .inr ⟨_, hne, hletters, rfl⟩
    · cases h
  case h_8 => cases h
  all_goals
    cases h
    exact .inl (by decide)

theorem isProper_of_first? {cs rest : List Char} {l : Lexeme} (h : first? cs = some (l, rest)) :
    l.IsProper := by
  have quotedCase (mark : Char) (r : List Char) (hm : mark = '"' ∨ mark = '\'')
      (h : (quoted? mark [] r).map (fun found => (quoted mark found.1, found.2)) =
        some (l, rest)) : l.IsProper := by
    obtain ⟨⟨body, rest'⟩, hq, h⟩ := Option.map_eq_some_iff.1 h
    obtain ⟨tail, rfl, -, ht⟩ := isBody_of_quoted? hq
    cases h
    exact ⟨hm, ht⟩
  unfold first? at h
  split at h
  · next ho =>
    cases h
    exact isProper_of_operator? ho
  · split at h
    case h_1 => cases h
    case h_6 r _ => exact quotedCase '"' r (.inl rfl) h
    case h_7 r _ => exact quotedCase '\'' r (.inr rfl) h
    case h_8 c r _ _ _ _ _ _ _ =>
      split at h
      · next hc =>
        cases h
        have htail : ∀ d ∈ r.takeWhile isWordChar, isWordChar d := by
          intro d hd
          exact List.mem_takeWhile_imp hd
        exact ⟨List.cons_ne_nil _ _, List.forall_mem_cons.2 ⟨hc, htail⟩⟩
      · cases h
    all_goals
      cases h
      trivial

/-- A lexeme at the start of a text shows that the text starts with one, and no shorter one. -/
theorem first?_of_isProper {l : Lexeme} (h : l.IsProper) (rest : List Char) :
    ∃ longest rest', first? (l.source ++ rest) = some (longest, rest') ∧
      l.source.length ≤ longest.source.length := by
  by_cases hs : l.Stops rest
  · exact ⟨l, rest, first?_append h hs, Nat.le_refl _⟩
  · cases l with
    | word text =>
      obtain ⟨c, text, rfl⟩ := List.exists_cons_of_ne_nil h.1
      obtain ⟨hc, ht⟩ := List.forall_mem_cons.1 h.2
      refine ⟨word (c :: (text ++ rest).takeWhile isWordChar), _, first?_of_isWordChar hc, ?_⟩
      rw [source, source, List.takeWhile_append_of_pos ht, List.length_cons, List.length_cons,
        List.length_append]
      omega
    | operator symbol =>
      -- only a sign or a name before a further `=` is left
      obtain ⟨r, rfl⟩ : ∃ r, rest = '=' :: r := by
        cases rest with
        | nil => exact absurd (stops_nil (operator symbol)) hs
        | cons c r =>
          have : c = '=' := by simpa [Stops] using hs
          exact ⟨r, by rw [this]⟩
      rcases h with h | ⟨name, hne, hl, rfl⟩
      · simp only [signs, List.mem_cons, List.not_mem_nil, or_false] at h
        rcases h with rfl | rfl | rfl | rfl | rfl | rfl
        all_goals exact ⟨operator _, _, rfl, by decide⟩
      · have := operator?_of_name hne hl ('=' :: r)
        refine ⟨operator ('=' :: name ++ ['=']), '=' :: r, ?_, Nat.le_refl _⟩
        unfold first?
        rw [source, List.append_assoc, List.singleton_append, this]
    | quoted _ _ | openParen | closeParen | semicolon | comma => exact absurd trivial hs

theorem source_injective {l m : Lexeme} (hl : l.IsProper) (hm : m.IsProper)
    (h : l.source = m.source) : l = m := by
  have h₁ := first?_append hl (stops_nil l)
  have h₂ := first?_append hm (stops_nil m)
  rw [h, h₂] at h₁
  cases h₁
  rfl

/-- `l` is the longest lexeme that a text starts with. -/
def IsLongest (l : Lexeme) (cs : List Char) : Prop :=
  l.IsProper ∧ l.source <+: cs ∧
    ∀ m : Lexeme, m.IsProper → m.source <+: cs → m.source.length ≤ l.source.length

theorem first?_eq_some_iff {cs rest : List Char} {l : Lexeme} :
    first? cs = some (l, rest) ↔ l.IsLongest cs ∧ cs = l.source ++ rest := by
  constructor
  · intro h
    obtain ⟨hcs, -⟩ := first?_eq_some h
    have hlongest (m : Lexeme) (hm : m.IsProper) (hpre : m.source <+: cs) :
        m.source.length ≤ l.source.length := by
      obtain ⟨rest', rfl⟩ := hpre
      obtain ⟨longest, rest'', hf, hle⟩ := first?_of_isProper hm rest'
      rw [h] at hf
      cases hf
      exact hle
    exact ⟨⟨isProper_of_first? h, ⟨rest, hcs.symm⟩, hlongest⟩, hcs⟩
  · rintro ⟨⟨hl, -, hlongest⟩, rfl⟩
    obtain ⟨m, rest', hf, hle⟩ := first?_of_isProper hl rest
    obtain ⟨hcs, -⟩ := first?_eq_some hf
    have hm := isProper_of_first? hf
    have hge := hlongest m hm ⟨rest', hcs.symm⟩
    have hlength : l.source.length = m.source.length := by omega
    obtain ⟨hsource, rfl⟩ := List.append_inj hcs hlength
    rw [hf, source_injective hl hm hsource]

/-! ### Cutting -/

/-- A text is blanks and lexemes, each of which is the longest at its place. -/
inductive Munch : List Char → List Lexeme → Prop
  | nil : Munch [] []
  | blank {c : Char} {cs : List Char} {ls : List Lexeme} : isBlank c → Munch cs ls →
      Munch (c :: cs) ls
  | lexeme {l : Lexeme} {rest : List Char} {ls : List Lexeme} : l.IsLongest (l.source ++ rest) →
      Munch rest ls → Munch (l.source ++ rest) (l :: ls)

theorem IsProper.source_eq_cons {l : Lexeme} (h : l.IsProper) :
    ∃ c cs, l.source = c :: cs ∧ isBlank c = false := by
  cases l with
  | word text =>
    obtain ⟨c, text, rfl⟩ := List.exists_cons_of_ne_nil h.1
    have := (List.forall_mem_cons.1 h.2).1
    exact ⟨c, text, rfl, by simp_all [isWordChar]⟩
  | quoted mark body =>
    obtain ⟨rfl | rfl, -⟩ := h
    all_goals exact ⟨_, _, rfl, by decide⟩
  | operator symbol =>
    rcases h with h | ⟨name, -, -, rfl⟩
    · simp only [signs, List.mem_cons, List.not_mem_nil, or_false] at h
      rcases h with rfl | rfl | rfl | rfl | rfl | rfl
      all_goals exact ⟨_, _, rfl, by decide⟩
    · exact ⟨_, _, rfl, by decide⟩
  | openParen | closeParen | semicolon | comma => exact ⟨_, _, rfl, by decide⟩

theorem cutFrom_blank {position : Nat} {c : Char} {cs : List Char} (h : isBlank c) :
    cutFrom position (c :: cs) = cutFrom (position + c.utf8Size) cs := by
  rw [cutFrom, if_pos h]

theorem cutFrom_lexeme {position : Nat} {l : Lexeme} {rest : List Char}
    (h : l.IsLongest (l.source ++ rest)) :
    cutFrom position (l.source ++ rest) =
      (cutFrom (position + byteLength l.source) rest).map ((position, l) :: ·) := by
  have hf := first?_eq_some_iff.2 ⟨h, rfl⟩
  obtain ⟨c, cs, hc, hb⟩ := h.1.source_eq_cons
  rw [hc, List.cons_append] at hf ⊢
  rw [cutFrom, if_neg (by simp [hb])]
  split
  · next h' =>
    rw [hf] at h'
    cases h'
    rw [hc]
  · next h' =>
    rw [hf] at h'
    cases h'

theorem Munch.cutFrom {cs : List Char} {ls : List Lexeme} (h : Munch cs ls) (position : Nat) :
    ∃ placed, cutFrom position cs = .ok placed ∧ placed.map Prod.snd = ls := by
  induction h generalizing position with
  | nil => exact ⟨[], by rw [Lexeme.cutFrom], rfl⟩
  | blank hc _ ih =>
    rw [cutFrom_blank hc]
    exact ih _
  | lexeme hl _ ih =>
    obtain ⟨placed, hcut, hp⟩ := ih (position + byteLength _)
    rw [cutFrom_lexeme hl, hcut]
    exact ⟨_, rfl, by rw [List.map_cons, hp]⟩

theorem munch_of_cutFrom {position : Nat} {cs : List Char} {placed : List (Nat × Lexeme)}
    (h : cutFrom position cs = .ok placed) : Munch cs (placed.map Prod.snd) := by
  fun_induction Lexeme.cutFrom position cs generalizing placed with
  | case1 position =>
    cases h
    exact .nil
  | case2 position c r hb ih => exact .blank hb (ih h)
  | case3 position c r hb l rest hf ih =>
    cases hcut : Lexeme.cutFrom (position + byteLength l.source) rest with
    | error e =>
      rw [hcut] at h
      cases h
    | ok placed' =>
      rw [hcut] at h
      cases h
      obtain ⟨hl, hcs⟩ := first?_eq_some_iff.1 hf
      rw [hcs] at hl ⊢
      exact .lexeme hl (ih hcut)
  | case4 position c r hb hf => cases h

/-- Cutting a text finds the lexemes that are longest at their places. -/
theorem munch_iff_cut {text : List Char} {ls : List Lexeme} :
    Munch text ls ↔ ∃ placed, cut text = .ok placed ∧ placed.map Prod.snd = ls := by
  constructor
  · intro h
    exact h.cutFrom 0
  · rintro ⟨placed, h, rfl⟩
    exact munch_of_cutFrom h

theorem Munch.unique {text : List Char} {ls ms : List Lexeme} (hl : Munch text ls)
    (hm : Munch text ms) : ls = ms := by
  obtain ⟨_, hc, rfl⟩ := munch_iff_cut.1 hl
  obtain ⟨_, hc', rfl⟩ := munch_iff_cut.1 hm
  rw [hc] at hc'
  cases hc'
  rfl

/-- A lexeme can be put before a text that does not make it longer. -/
theorem Munch.cons {l : Lexeme} {rest : List Char} {ls : List Lexeme} (hl : l.IsProper)
    (hs : l.Stops rest) (h : Munch rest ls) : Munch (l.source ++ rest) (l :: ls) := by
  obtain ⟨hlongest, -⟩ := first?_eq_some_iff.1 (first?_append hl hs)
  exact .lexeme hlongest h

theorem Munch.isProper {text : List Char} {ls : List Lexeme} (h : Munch text ls) :
    ∀ l ∈ ls, l.IsProper := by
  induction h with
  | nil => exact List.forall_mem_nil _
  | blank _ _ ih => exact ih
  | lexeme hl _ ih => exact List.forall_mem_cons.2 ⟨hl.1, ih⟩

end FilterQuery.Lexeme
