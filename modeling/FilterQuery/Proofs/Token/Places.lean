import FilterQuery.Proofs.Grammar.Text
import FilterQuery.Proofs.Token.Tiling

/-!
# Where tokens stand

* `Span.Marks` : the place of a stretch of a text;
* `HasToken` : a token of a text, with what it says and how it is written;
* `Token.Stands.writesValue` and its like : how a token of each kind is written;
* `Tiles.split`, `Tiles.uncons` : a tiled text taken apart;
* `Tiles.marks_list`, `Tiles.marks_end` : the places of a list of values and of the end of the tokens.
-/

set_option autoImplicit false

namespace FilterQuery
open Grammar

/-- The place of `slice` in a text. -/
def Span.Marks (span : Span) (text slice : List Char) : Prop :=
  ∃ before after, text = before ++ (slice ++ after) ∧ span = ⟨byteLength before, byteLength slice⟩

/-- The text has a token that says `content` and is written `slice`. -/
def HasToken (text : String) (kind : TokenKind) (content : String) (slice : List Char)
    (span : Span) : Prop :=
  ∃ tokens t, Token.ofText text = .ok tokens ∧ t ∈ tokens ∧ t.kind = kind ∧ t.text = content ∧
    t.span = span ∧ span.Marks text.toList slice

/-! ### How tokens are written -/

/-- The text is a value, or writes it between quotes. -/
inductive WritesValue : (slice value : List Char) → Prop
  | word {word : List Char} : word ≠ [] → (∀ c ∈ word, isWordChar c) → WritesValue word word
  | quoted {mark : Char} {body value : List Char} : mark = '"' ∨ mark = '\'' →
      IsEscaped mark body value → WritesValue (mark :: body ++ [mark]) value

section Stands

variable {t : Token} {before slice after : List Char}

theorem Token.Stands.eq_text (h : t.Stands before slice after)
    (hk : t.kind = .selector ∨ t.kind = .operator) : slice = t.text.toList := by
  cases h with
  | word _ _ _ _ _ ht | operator _ _ ht => rw [ht, String.toList_ofList]
  | quoted hv => rcases hk with hk | hk <;> cases hv.symm.trans hk
  | single hp =>
    rcases hk with hk | hk
    all_goals
      rw [hk] at hp
      simp [punctuation] at hp

theorem Token.Stands.writesValue (h : t.Stands before slice after) (hk : t.kind = .value) :
    WritesValue slice t.text.toList := by
  cases h with
  | word _ hne hw _ _ ht =>
    rw [ht, String.toList_ofList]
    exact .word hne hw
  | quoted _ hm hbody ht =>
    rw [ht, String.toList_ofList]
    exact .quoted hm hbody
  | operator ho => cases ho.symm.trans hk
  | single hp =>
    rw [hk] at hp
    simp [punctuation] at hp

theorem Token.Stands.eq_opening (h : t.Stands before slice after) (hk : t.kind = .openGroup) :
    slice = ['('] := by
  cases h with
  | word hw => rcases hw with hw | hw <;> cases hw.symm.trans hk
  | quoted hv => cases hv.symm.trans hk
  | operator ho => cases ho.symm.trans hk
  | single hp =>
    rw [hk] at hp
    simpa [punctuation] using hp

theorem Token.Stands.eq_closing (h : t.Stands before slice after) (hk : t.kind = .closeGroup) :
    slice = [')'] := by
  cases h with
  | word hw => rcases hw with hw | hw <;> cases hw.symm.trans hk
  | quoted hv => cases hv.symm.trans hk
  | operator ho => cases ho.symm.trans hk
  | single hp =>
    rw [hk] at hp
    simpa [punctuation] using hp

end Stands

/-! ### A tiled text taken apart -/

section Tiles

variable {before rest : List Char} {tokens : List Token}

theorem Tiles.uncons {t : Token} (h : Tiles before rest (t :: tokens)) :
    ∃ blanks slice after, rest = blanks ++ (slice ++ after) ∧
      t.span = ⟨byteLength (before ++ blanks), byteLength slice⟩ ∧
      t.Stands (before ++ blanks) slice after ∧ Tiles (before ++ blanks ++ slice) after tokens := by
  generalize hl : t :: tokens = all at h
  induction h with
  | nil => cases hl
  | @blank before rest c _ _ _ ih =>
    obtain ⟨blanks, slice, after, rfl, hspan, hstands, htiles⟩ := ih hl
    rw [List.append_assoc before] at hspan hstands htiles
    exact ⟨c :: blanks, slice, after, rfl, hspan, hstands, htiles⟩
  | @token before slice rest u _ hspan hstands htiles =>
    obtain ⟨rfl, rfl⟩ := List.cons.inj hl
    refine ⟨[], slice, rest, rfl, ?_⟩
    rw [List.append_nil]
    exact ⟨hspan, hstands, htiles⟩

theorem Tiles.split {more : List Token} (h : Tiles before rest (tokens ++ more)) :
    ∃ front back, rest = front ++ back ∧ Tiles (before ++ front) back more := by
  induction tokens generalizing before rest with
  | nil => exact ⟨[], rest, rfl, by rwa [List.append_nil]⟩
  | cons t tokens ih =>
    obtain ⟨blanks, slice, after, rfl, -, -, htiles⟩ := h.uncons
    obtain ⟨front, back, rfl, hmore⟩ := ih htiles
    refine ⟨blanks ++ (slice ++ front), back, by simp, ?_⟩
    simpa using hmore

/-- Where a token stands in a tiled text, and what follows it. -/
theorem Tiles.stands {text : List Char} {front back : List Token} {t : Token}
    (h : Tiles [] text (front ++ t :: back)) : ∃ before slice after,
      text = before ++ (slice ++ after) ∧ t.span = ⟨byteLength before, byteLength slice⟩ ∧
      t.Stands before slice after ∧ Tiles (before ++ slice) after back := by
  obtain ⟨front, rest, rfl, hrest⟩ := h.split
  obtain ⟨blanks, slice, after, rfl, hspan, hstands, htiles⟩ := hrest.uncons
  refine ⟨front ++ blanks, slice, after, by simp, ?_⟩
  rw [List.nil_append] at hspan hstands htiles
  exact ⟨hspan, hstands, htiles⟩

/-- The place of a list of values, from one parenthesis to the other. -/
theorem Tiles.marks_list {text : List Char} {opening closing : Token} {front inner back : List Token}
    (h : Tiles [] text (front ++ opening :: (inner ++ closing :: back)))
    (ho : opening.kind = .openGroup) (hc : closing.kind = .closeGroup) :
    ∃ between, (Span.upTo opening.span.offset closing.span.stop).Marks text
      ('(' :: between ++ [')']) := by
  obtain ⟨before, slice, after, rfl, hopening, hstands, hafter⟩ := h.stands
  obtain rfl := hstands.eq_opening ho
  obtain ⟨values, rest, rfl, hrest⟩ := hafter.split
  obtain ⟨blanks, slice, after, rfl, hclosing, hstands, -⟩ := hrest.uncons
  obtain rfl := hstands.eq_closing hc
  refine ⟨values ++ blanks, before, after, by simp, ?_⟩
  rw [Span.upTo, Span.stop, hopening, hclosing]
  simp only [byteLength_append, byteLength_cons, byteLength_nil, List.cons_append]
  congr 1
  omega

/-- The end of the last token. -/
theorem Tiles.marks_end {text : List Char} (h : Tiles [] text tokens) :
    Span.Marks ⟨Query.endOf tokens, 0⟩ text [] := by
  rcases List.eq_nil_or_concat' tokens with rfl | ⟨front, t, rfl⟩
  · exact ⟨[], text, rfl, rfl⟩
  · obtain ⟨before, slice, after, rfl, hspan, -, -⟩ := h.stands
    refine ⟨before ++ slice, after, by simp, ?_⟩
    rw [Query.endOf, List.getLast?_concat]
    simp [Span.stop, hspan]

end Tiles

/-! ### Texts and their tokens -/

theorem tiles_of_ofText {text : String} {tokens : List Token}
    (h : Token.ofText text = .ok tokens) : Tiles [] text.toList tokens := by
  obtain ⟨placed, hplaced, rfl⟩ := tokenOfText_eq_ok.1 h
  exact tiles_of_cutFrom rfl (parts_nil _) hplaced

theorem exists_stands {text : String} {tokens : List Token} (h : Token.ofText text = .ok tokens)
    {t : Token} (ht : t ∈ tokens) :
    ∃ slice, t.span.Marks text.toList slice ∧ ∃ before after, t.Stands before slice after := by
  obtain ⟨front, back, rfl⟩ := List.append_of_mem ht
  obtain ⟨before, slice, after, htext, hspan, hstands, -⟩ := (tiles_of_ofText h).stands
  exact ⟨slice, ⟨before, after, htext, hspan⟩, before, after, hstands⟩

end FilterQuery
