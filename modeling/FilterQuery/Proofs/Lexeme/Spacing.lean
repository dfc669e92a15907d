import FilterQuery.Proofs.Lexeme.Seam

/-!
# Blanks between lexemes

* `spread` : a text with more characters put into it, wherever that may be;
* `inserted` : how much of that stands before a byte of the text;
* `cutFrom_spread` : with blanks put between its lexemes, before and after them a text is cut into the same
  lexemes, each as much further on as there are blanks before it.
-/

set_option autoImplicit false

namespace FilterQuery

/-- The text that starts at byte `position`, with `blanks n` put before the character at byte `n`, and
before the end if the text ends there. -/
def spread (blanks : Nat → List Char) (position : Nat) : List Char → List Char
  | [] => blanks position
  | c :: cs => blanks position ++ c :: spread blanks (position + c.utf8Size) cs

/-- How many bytes are put before those that go before byte `n`. -/
def inserted (blanks : Nat → List Char) : Nat → Nat
  | 0 => 0
  | n + 1 => inserted blanks n + byteLength (blanks n)

/-- Where byte `n` is then. -/
def respaced (blanks : Nat → List Char) (n : Nat) : Nat := n + inserted blanks (n + 1)

variable {blanks : Nat → List Char} {position : Nat} {rest : List Char}

/-! ### Nothing is put into a lexeme -/

theorem inserted_add {n : Nat} (hn : 0 < n)
    (h : ∀ m, position < m → m < position + n → blanks m = []) :
    inserted blanks (position + n) = inserted blanks (position + 1) := by
  induction n with
  | zero => exact absurd hn (Nat.lt_irrefl 0)
  | succ n ih =>
    cases n with
    | zero => rfl
    | succ n =>
      have hlast : blanks (position + (n + 1)) = [] := h _ (by omega) (by omega)
      rw [← Nat.add_assoc, inserted, hlast, byteLength_nil, Nat.add_zero]
      apply ih (Nat.succ_pos n)
      intro m hm hlt
      exact h m hm (by omega)

theorem spread_append {cs : List Char} (hne : cs ≠ [])
    (h : ∀ m, position < m → m < position + byteLength cs → blanks m = []) :
    spread blanks position (cs ++ rest) =
      blanks position ++ (cs ++ spread blanks (position + byteLength cs) rest) := by
  induction cs generalizing position with
  | nil => exact absurd rfl hne
  | cons c cs ih =>
    rw [List.cons_append, spread, List.cons_append, byteLength_cons, ← Nat.add_assoc]
    cases cs with
    | nil => rfl
    | cons d cs =>
      have hsize := c.utf8Size_pos
      have hpos := byteLength_pos (List.cons_ne_nil d cs)
      rw [byteLength_cons c] at h
      have hnext : blanks (position + c.utf8Size) = [] := h _ (by omega) (by omega)
      rw [ih (List.cons_ne_nil d cs), hnext, List.nil_append]
      intro m hm hlt
      exact h m (by omega) (by omega)

namespace Lexeme

variable {text : List Char} {placed : List (Nat × Lexeme)}

/-! ### Blanks -/

theorem cutFrom_blanks {run : List Char} (h : ∀ c ∈ run, isBlank c) (position : Nat)
    (rest : List Char) :
    cutFrom position (run ++ rest) = cutFrom (position + byteLength run) rest := by
  induction run generalizing position with
  | nil => rfl
  | cons c run ih =>
    obtain ⟨hc, hrun⟩ := List.forall_mem_cons.1 h
    rw [List.cons_append, cutFrom_blank hc, ih hrun, byteLength_cons, Nat.add_assoc]

theorem utf8Size_of_isBlank {c : Char} (h : isBlank c) : c.utf8Size = 1 := by
  simp only [isBlank, List.mem_cons, List.not_mem_nil, or_false, decide_eq_true_eq] at h
  rcases h with rfl | rfl | rfl | rfl <;> rfl

/-- A blank ends each lexeme. -/
theorem stops_of_isBlank {c : Char} (h : isBlank c) (l : Lexeme) (rest : List Char) :
    l.Stops (c :: rest) := by
  cases l with
  | word text =>
    rintro _ ⟨⟩
    rw [isWordChar, h, Bool.not_true, Bool.and_false]
  | operator symbol =>
    rintro ⟨⟩
    revert h
    decide
  | quoted _ _ | openParen | closeParen | semicolon | comma => trivial

/-- What is put after a lexeme does not make it longer. -/
theorem IsLongest.before_spread {l : Lexeme} (h : l.IsLongest (l.source ++ rest))
    (hblank : ∀ c ∈ blanks position, isBlank c) :
    l.IsLongest (l.source ++ spread blanks position rest) := by
  cases hrun : blanks position with
  | nil =>
    -- what followed it does so still
    apply h.congr_head
    cases rest with
    | nil => rw [spread, hrun]
    | cons c rest => rw [spread, hrun, List.nil_append, List.head?_cons, List.head?_cons]
  | cons c run =>
    have hc : isBlank c := hblank c (by rw [hrun]; exact List.mem_cons_self)
    obtain ⟨tail, htail⟩ : ∃ tail, spread blanks position rest = c :: tail := by
      cases rest with
      | nil => exact ⟨run, hrun⟩
      | cons d rest =>
        rw [spread, hrun]
        exact ⟨_, rfl⟩
    rw [htail]
    exact (first?_eq_some_iff.1 (first?_append h.1 (stops_of_isBlank hc l tail))).1

/-! ### Cutting -/

/-- Blanks before, between and after the lexemes of a text leave it the same lexemes. -/
theorem cutFrom_spread (h : cutFrom position text = .ok placed)
    (hblank : ∀ n, ∀ c ∈ blanks n, isBlank c)
    (hinside : ∀ x ∈ placed, ∀ m, x.1 < m → m < x.1 + byteLength x.2.source → blanks m = []) :
    cutFrom (position + inserted blanks position) (spread blanks position text) =
      .ok (placed.map (Prod.map (respaced blanks) id)) := by
  fun_induction Lexeme.cutFrom position text generalizing placed with
  | case1 position =>
    cases h
    have hrun := cutFrom_blanks (hblank position) (position + inserted blanks position) []
    rw [List.append_nil] at hrun
    rw [spread, hrun, Lexeme.cutFrom]
    rfl
  | case2 position c r hb ih =>
    have hstart : position + inserted blanks position + byteLength (blanks position) + c.utf8Size =
        position + c.utf8Size + inserted blanks (position + c.utf8Size) := by
      rw [utf8Size_of_isBlank hb, inserted]
      omega
    rw [spread, cutFrom_blanks (hblank position), cutFrom_blank hb, hstart]
    exact ih h hinside
  | case3 position c r hb l rest hf ih =>
    obtain ⟨tail, htail, rfl⟩ := map_eq_ok.1 h
    obtain ⟨hl, hcs⟩ := first?_eq_some_iff.1 hf
    obtain ⟨hhead, hrest⟩ := List.forall_mem_cons.1 hinside
    obtain ⟨-, hne⟩ := first?_eq_some hf
    rw [hcs] at hl ⊢
    have hplace : position + inserted blanks position + byteLength (blanks position) =
        respaced blanks position := Nat.add_assoc ..
    have hnext : respaced blanks position + byteLength l.source =
        position + byteLength l.source + inserted blanks (position + byteLength l.source) := by
      have hwithin : inserted blanks (position + byteLength l.source) =
          inserted blanks (position + 1) := inserted_add (byteLength_pos hne) hhead
      rw [respaced, hwithin]
      omega
    rw [spread_append hne hhead, cutFrom_blanks (hblank position), hplace,
      cutFrom_lexeme (hl.before_spread (hblank _)), hnext, ih htail hrest]
    rfl
  | case4 => cases h

end Lexeme
end FilterQuery
