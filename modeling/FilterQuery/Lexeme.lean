import FilterQuery.Span

/-!
# Cutting a query into lexemes

A query is a sequence of lexemes with blanks between them. Each lexeme is as long as it can be.

* `isReserved`, `isBlank` : the characters that end a word;
* `Lexeme` : a word, a quoted text, an operator, a parenthesis or a mark, with `Lexeme.source`, the
  text it stands for;
* `Lexeme.first?` : the lexeme that a text starts with;
* `Lexeme.cut` : the lexemes of a text with the byte at which each starts, or the first character
  that starts none.
-/

set_option autoImplicit false

namespace FilterQuery

/-- The characters that are part of the notation. -/
def isReserved (c : Char) : Bool :=
  c ∈ ['"', '\'', '(', ')', ';', ',', '=', '!', '~', '<', '>']

/-- The characters that may stand between lexemes. -/
def isBlank (c : Char) : Bool := c ∈ [' ', '\t', '\r', '\n']

/-- The characters that a word is made of. -/
def isWordChar (c : Char) : Bool := ! isReserved c && ! isBlank c

/-- The letters that the name of an operator is made of. -/
def isLetter (c : Char) : Bool := ('a' ≤ c && c ≤ 'z') || ('A' ≤ c && c ≤ 'Z')

/-- A lexeme. -/
inductive Lexeme where
  | word (text : List Char)
  /-- The text between two marks `mark`, as it is written there. -/
  | quoted (mark : Char) (body : List Char)
  | operator (symbol : List Char)
  | openParen
  | closeParen
  | semicolon
  | comma
deriving DecidableEq, Repr

/-- A character that starts no lexeme. -/
structure LexError where
  /-- The byte at which it stands. -/
  position : Nat
  unexpected : Char
deriving DecidableEq, Repr

namespace Lexeme

/-- The text that a lexeme stands for. -/
def source : Lexeme → List Char
  | word text => text
  | quoted mark body => mark :: body ++ [mark]
  | operator symbol => symbol
  | openParen => ['(']
  | closeParen => [')']
  | semicolon => [';']
  | comma => [',']

/-- The operator at the start of a text: a comparison sign, or a name between two `=`. -/
def operator? : List Char → Option (List Char × List Char)
  | '=' :: '=' :: r => some (['=', '='], r)
  | '!' :: '=' :: r => some (['!', '='], r)
  | '>' :: '=' :: r => some (['>', '='], r)
  | '<' :: '=' :: r => some (['<', '='], r)
  | '>' :: r => some (['>'], r)
  | '<' :: r => some (['<'], r)
  | '=' :: r =>
    let name := r.takeWhile isLetter
    match r.dropWhile isLetter with
    | '=' :: rest => if name = [] then none else some ('=' :: name ++ ['='], rest)
    | _ => none
  | _ => none

/-- The rest of a quoted text up to the next `mark` that no backslash stands before, after the
characters `read`, the last one first. -/
def quoted? (mark : Char) (read : List Char) : List Char → Option (List Char × List Char)
  | [] => none
  | '\\' :: c :: r => quoted? mark (c :: '\\' :: read) r
  | c :: r =>
    if c = mark then some (read.reverse, r)
    else if c = '\\' then none
    else quoted? mark (c :: read) r

/-- The lexeme that a text starts with, and what follows it. -/
def first? (cs : List Char) : Option (Lexeme × List Char) :=
  match operator? cs with
  | some (symbol, rest) => some (operator symbol, rest)
  | none =>
    match cs with
    | [] => none
    | '(' :: r => some (openParen, r)
    | ')' :: r => some (closeParen, r)
    | ';' :: r => some (semicolon, r)
    | ',' :: r => some (comma, r)
    | '"' :: r => (quoted? '"' [] r).map fun (body, rest) => (quoted '"' body, rest)
    | '\'' :: r => (quoted? '\'' [] r).map fun (body, rest) => (quoted '\'' body, rest)
    | c :: r =>
      if isWordChar c then some (word (c :: r.takeWhile isWordChar), r.dropWhile isWordChar)
      else none

/-! ### A lexeme and what follows it make up the text -/

theorem operator?_eq_some {cs symbol rest : List Char} (h : operator? cs = some (symbol, rest)) :
    cs = symbol ++ rest ∧ symbol ≠ [] := by
  unfold operator? at h
  split at h
  case h_7 r _ =>
    have := List.takeWhile_append_dropWhile (p := isLetter) (l := r)
    dsimp only at h
    split at h
    · next hd =>
      split at h
      · cases h
      · simp only [Option.some.injEq, Prod.mk.injEq] at h
        obtain ⟨rfl, rfl⟩ := h
        rw [hd] at this
        refine ⟨?_, by simp⟩
        simp only [List.cons_append, List.append_assoc, List.nil_append, this]
    · cases h
  case h_8 => cases h
  all_goals
    simp only [Option.some.injEq, Prod.mk.injEq] at h
    simp [← h.1, ← h.2]

theorem quoted?_eq_some (mark : Char) {read cs body rest : List Char}
    (h : quoted? mark read cs = some (body, rest)) :
    ∃ tail, body = read.reverse ++ tail ∧ cs = tail ++ mark :: rest := by
  fun_induction quoted? mark read cs with
  | case1 => cases h
  | case2 read c r ih =>
    obtain ⟨tail, hb, hc⟩ := ih h
    exact ⟨'\\' :: c :: tail, by simp [hb], by simp [hc]⟩
  | case3 read c r =>
    simp only [Option.some.injEq, Prod.mk.injEq] at h
    exact ⟨[], by simp [h.1], by simp [h.2]⟩
  | case4 => cases h
  | case5 read c r _ _ _ ih =>
    obtain ⟨tail, hb, hc⟩ := ih h
    exact ⟨c :: tail, by simp [hb], by simp [hc]⟩

theorem first?_eq_some {cs rest : List Char} {lexeme : Lexeme}
    (h : first? cs = some (lexeme, rest)) : cs = lexeme.source ++ rest ∧ lexeme.source ≠ [] := by
  have quotedCase (mark : Char) (r : List Char)
      (h : (quoted? mark [] r).map (fun (body, rest) => (quoted mark body, rest)) =
        some (lexeme, rest)) :
      mark :: r = lexeme.source ++ rest ∧ lexeme.source ≠ [] := by
    obtain ⟨⟨body, rest'⟩, hq, h⟩ := Option.map_eq_some_iff.1 h
    obtain ⟨tail, hb, hr⟩ := quoted?_eq_some mark hq
    simp only [Prod.mk.injEq] at h
    simp [← h.1, ← h.2, source, hr, hb]
  unfold first? at h
  split at h
  · next symbol rest' ho =>
    simp only [Option.some.injEq, Prod.mk.injEq] at h
    have := operator?_eq_some ho
    simpa [← h.1, ← h.2, source] using this
  · split at h
    case h_1 => cases h
    case h_6 r _ => exact quotedCase '"' r h
    case h_7 r _ => exact quotedCase '\'' r h
    case h_8 =>
      split at h
      · simp only [Option.some.injEq, Prod.mk.injEq] at h
        simp [← h.1, ← h.2, source, List.takeWhile_append_dropWhile]
      · cases h
    all_goals
      simp only [Option.some.injEq, Prod.mk.injEq] at h
      simp [← h.1, ← h.2, source]

theorem length_first? {cs rest : List Char} {lexeme : Lexeme}
    (h : first? cs = some (lexeme, rest)) : rest.length < cs.length := by
  obtain ⟨hcs, hne⟩ := first?_eq_some h
  have := List.length_pos_iff.2 hne
  simp only [hcs, List.length_append]
  omega

/-- The lexemes of a text that starts at byte `position`, each with the byte at which it starts. -/
def cutFrom (position : Nat) (cs : List Char) : Except LexError (List (Nat × Lexeme)) :=
  match cs with
  | [] => .ok []
  | c :: r =>
    if isBlank c then cutFrom (position + c.utf8Size) r
    else
      match _ : first? (c :: r) with
      | some (lexeme, rest) =>
        (cutFrom (position + byteLength lexeme.source) rest).map ((position, lexeme) :: ·)
      | none => .error ⟨position, c⟩
termination_by cs.length
decreasing_by
  · simp
  · exact length_first? (by assumption)

/-- The lexemes of a text, each with the byte at which it starts. -/
def cut (text : List Char) : Except LexError (List (Nat × Lexeme)) := cutFrom 0 text

end Lexeme
end FilterQuery
