import FilterQuery.Diagnosis
import FilterQuery.Proofs.Lexeme.Seam

/-!
# Tokens tile their text

* `IsEscaped` : the text between two marks, and what it says;
* `Token.Stands` : what a token is for the stretch of the text where it stands;
* `Tiles` : a text is blanks and tokens, each with the place where it stands;
* `NoLexeme` : a quote that is never closed, or a sign that starts no operator;
* `Token.tiles_or_stuck` : a text is tiled by its tokens, or it has a first character that starts no
  lexeme.
-/

set_option autoImplicit false

namespace FilterQuery
open Lexeme (IsLongest)

/-! ### What a token stands for -/

/-- The text between two marks, and what it says: a backslash is dropped, and the character after it
kept whatever it is; no other mark stands between. -/
inductive IsEscaped (mark : Char) : (body content : List Char) → Prop
  | nil : IsEscaped mark [] []
  | escaped {c : Char} {body content : List Char} : IsEscaped mark body content →
      IsEscaped mark ('\\' :: c :: body) (c :: content)
  | plain {c : Char} {body content : List Char} : c ≠ mark → c ≠ '\\' →
      IsEscaped mark body content → IsEscaped mark (c :: body) (c :: content)

theorem IsEscaped.isBody {mark : Char} {body content : List Char}
    (h : IsEscaped mark body content) : Lexeme.IsBody mark body := by
  induction h with
  | nil => exact .nil
  | escaped _ ih => exact .escaped ih
  | plain hc hb _ ih => exact .plain hc hb ih

theorem isEscaped_unescape {mark : Char} {body : List Char} (h : Lexeme.IsBody mark body) :
    IsEscaped mark body (unescape body) := by
  induction h with
  | nil => exact .nil
  | escaped _ ih => exact .escaped ih
  | plain hc hb _ ih =>
    rw [unescape.eq_4 _ _ (fun h _ => hb h) (fun _ _ h _ => hb h)]
    exact .plain hc hb ih

/-- The characters that are tokens of their own, with the kinds that these may have. -/
def punctuation : List (Char × TokenKind) :=
  [('(', .openGroup), (')', .closeGroup), (';', .and), (',', .or), (',', .separator)]

/-- What a token is for the stretch `slice` of a text: a whole run of word characters, a text between
two quotes, an operator, or a single character. -/
inductive Token.Stands (t : Token) (before : List Char) : (slice after : List Char) → Prop
  | word {slice after : List Char} : t.kind = .selector ∨ t.kind = .value → slice ≠ [] →
      (∀ c ∈ slice, isWordChar c) → (∀ c ∈ before.getLast?, isWordChar c = false) →
      (∀ c ∈ after.head?, isWordChar c = false) → t.text = String.ofList slice →
      t.Stands before slice after
  | quoted {mark : Char} {body content after : List Char} : t.kind = .value →
      mark = '"' ∨ mark = '\'' → IsEscaped mark body content → t.text = String.ofList content →
      t.Stands before (mark :: body ++ [mark]) after
  | operator {slice after : List Char} : t.kind = .operator → (Lexeme.operator slice).IsProper →
      t.text = String.ofList slice → t.Stands before slice after
  | single {c : Char} {after : List Char} : (c, t.kind) ∈ punctuation →
      t.text = String.ofList [c] → t.Stands before [c] after

/-- The text `rest`, which stands after `before`, is blanks and tokens. -/
inductive Tiles : (before rest : List Char) → List Token → Prop
  | nil {before : List Char} : Tiles before [] []
  | blank {before rest : List Char} {c : Char} {tokens : List Token} : isBlank c →
      Tiles (before ++ [c]) rest tokens → Tiles before (c :: rest) tokens
  | token {before slice rest : List Char} {t : Token} {tokens : List Token} :
      t.span = ⟨byteLength before, byteLength slice⟩ → t.Stands before slice rest →
      Tiles (before ++ slice) rest tokens → Tiles before (slice ++ rest) (t :: tokens)

/-! ### Words do not go on from one lexeme to the next -/

/-- No word ends one text and starts the other. -/
def Parts (before rest : List Char) : Prop :=
  ∀ c ∈ before.getLast?, ∀ d ∈ rest.head?, isWordChar c → isWordChar d = false

theorem parts_nil (rest : List Char) : Parts [] rest := by
  rintro _ ⟨⟩

theorem parts_snoc {before rest : List Char} {c : Char} (hc : isWordChar c = false) :
    Parts (before ++ [c]) rest := by
  intro d hd _ _ hword
  rw [List.getLast?_concat] at hd
  cases hd
  rw [hc] at hword
  cases hword

theorem isWordChar_of_isBlank {c : Char} (h : isBlank c) : isWordChar c = false := by
  simp [isWordChar, h]

/-- An operator ends with a sign. -/
theorem exists_operator_last {symbol : List Char} (h : (Lexeme.operator symbol).IsProper) :
    ∃ front last, symbol = front ++ [last] ∧ isWordChar last = false := by
  rcases h with h | ⟨name, -, -, rfl⟩
  · simp only [Lexeme.signs, List.mem_cons, List.not_mem_nil, or_false] at h
    rcases h with rfl | rfl | rfl | rfl | rfl | rfl
    · exact ⟨['='], '=', rfl, by decide⟩
    · exact ⟨['!'], '=', rfl, by decide⟩
    · exact ⟨['>'], '=', rfl, by decide⟩
    · exact ⟨['<'], '=', rfl, by decide⟩
    · exact ⟨[], '>', rfl, by decide⟩
    · exact ⟨[], '<', rfl, by decide⟩
  · exact ⟨'=' :: name, '=', rfl, by decide⟩

theorem parts_source {before rest : List Char} {l : Lexeme}
    (h : l.IsLongest (l.source ++ rest)) : Parts (before ++ l.source) rest := by
  have ofLast (front : List Char) {last : Char} (hl : l.source = front ++ [last])
      (hlast : isWordChar last = false) : Parts (before ++ l.source) rest := by
    rw [hl, ← List.append_assoc]
    exact parts_snoc hlast
  cases l with
  | word text =>
    intro _ _ d hd _
    exact IsLongest.head_of_word h d hd
  | quoted mark body =>
    obtain ⟨rfl | rfl, -⟩ := h.1
    · exact ofLast ('"' :: body) rfl (by decide)
    · exact ofLast ('\'' :: body) rfl (by decide)
  | operator symbol =>
    obtain ⟨front, last, rfl, hlast⟩ := exists_operator_last h.1
    exact ofLast front rfl hlast
  | openParen | closeParen | semicolon | comma => exact ofLast [] rfl (by decide)

/-! ### Tokens of a text -/

theorem stands_of_isLongest {before rest : List Char} {l : Lexeme} {context : Context} {t : Token}
    (hp : Parts before (l.source ++ rest)) (hl : l.IsLongest (l.source ++ rest))
    (hk : t.kind = (context.read l).1) (ht : t.text = String.ofList l.content) :
    t.Stands before l.source rest := by
  cases l with
  | word text =>
    obtain ⟨c, tail, rfl⟩ := List.exists_cons_of_ne_nil hl.1.1
    have hkind : t.kind = .selector ∨ t.kind = .value := by
      rw [hk]
      cases context
      · exact .inl rfl
      · exact .inr rfl
      · exact .inr rfl
    have hbefore : ∀ d ∈ before.getLast?, isWordChar d = false := by
      intro d hd
      by_contra hword
      rw [Bool.not_eq_false] at hword
      have := hp d hd c rfl hword
      rw [hl.1.2 c List.mem_cons_self] at this
      cases this
    exact .word hkind hl.1.1 hl.1.2 hbefore (IsLongest.head_of_word hl) ht
  | quoted mark body =>
    have hkind : t.kind = .value := by
      rw [hk]
      cases context <;> rfl
    exact .quoted hkind hl.1.1 (isEscaped_unescape hl.1.2) ht
  | operator symbol =>
    have hkind : t.kind = .operator := by
      rw [hk]
      cases context <;> rfl
    exact .operator hkind hl.1 ht
  | openParen | closeParen | semicolon | comma =>
    refine .single ?_ ht
    rw [hk]
    cases context <;> decide

theorem tiles_of_cutFrom {before text : List Char} {position : Nat} {context : Context}
    {placed : List (Nat × Lexeme)} (hposition : position = byteLength before)
    (hp : Parts before text) (h : Lexeme.cutFrom position text = .ok placed) :
    Tiles before text (Token.classify context placed) := by
  fun_induction Lexeme.cutFrom position text generalizing before context placed with
  | case1 position =>
    cases h
    exact .nil
  | case2 position c r hb ih =>
    refine .blank hb (ih ?_ (parts_snoc (isWordChar_of_isBlank hb)) h)
    simp [hposition]
  | case3 position c r hb l rest hf ih =>
    obtain ⟨tail, htail, rfl⟩ := map_eq_ok.1 h
    obtain ⟨hl, hcs⟩ := Lexeme.first?_eq_some_iff.1 hf
    rw [hcs] at hl hp ⊢
    have hrest : position + byteLength l.source = byteLength (before ++ l.source) := by
      rw [hposition, byteLength_append]
    rw [Token.classify]
    refine .token ?_ (stands_of_isLongest hp hl rfl rfl) (ih hrest (parts_source hl) htail)
    rw [hposition]
  | case4 => cases h

theorem Tiles.bounds {before rest : List Char} {tokens : List Token} (h : Tiles before rest tokens) :
    (∀ t ∈ tokens, byteLength before ≤ t.span.offset ∧ 0 < t.span.length) ∧
      tokens.Pairwise fun s t => s.span.stop ≤ t.span.offset := by
  induction h with
  | nil => exact ⟨List.forall_mem_nil _, .nil⟩
  | blank _ _ ih =>
    refine ⟨?_, ih.2⟩
    intro t ht
    have := ih.1 t ht
    rw [byteLength_append] at this
    omega
  | @token before slice rest t tokens hspan hstands _ ih =>
    have hne : slice ≠ [] := by
      cases hstands with
      | word _ hne => exact hne
      | quoted => exact List.cons_ne_nil _ _
      | operator _ hproper _ =>
        obtain ⟨_, _, hsource, -⟩ := hproper.source_eq_cons
        exact fun hnil => List.cons_ne_nil _ _ (hsource.symm.trans hnil)
      | single => exact List.cons_ne_nil _ _
    have hpos := byteLength_pos hne
    have hlater : ∀ u ∈ tokens, byteLength before + byteLength slice ≤ u.span.offset := by
      intro u hu
      have := ih.1 u hu
      rw [byteLength_append] at this
      omega
    refine ⟨List.forall_mem_cons.2 ⟨?_, ?_⟩, List.pairwise_cons.2 ⟨?_, ih.2⟩⟩
    · rw [hspan]
      exact ⟨Nat.le_refl _, hpos⟩
    · intro u hu
      have := hlater u hu
      exact ⟨by omega, (ih.1 u hu).2⟩
    · rw [hspan]
      exact hlater

/-! ### Texts that are not cut -/

/-- The text starts with a quote that is never closed, or with a sign that starts no operator. -/
inductive NoLexeme : List Char → Prop
  | quote {mark : Char} {after : List Char} : mark = '"' ∨ mark = '\'' →
      (∀ body content rest, IsEscaped mark body content → after ≠ body ++ mark :: rest) →
      NoLexeme (mark :: after)
  | sign {c : Char} {after : List Char} : c ∈ ['=', '!', '~'] →
      (∀ symbol, (Lexeme.operator symbol).IsProper → ¬ symbol <+: c :: after) →
      NoLexeme (c :: after)

theorem noLexeme_of_first? {c : Char} {after : List Char} (hb : isBlank c = false)
    (h : Lexeme.first? (c :: after) = none) : NoLexeme (c :: after) := by
  have hnone (l : Lexeme) (hl : l.IsProper) : ¬ l.source <+: c :: after := by
    rintro ⟨rest, hrest⟩
    obtain ⟨longest, rest', hfirst, -⟩ := Lexeme.first?_of_isProper hl rest
    rw [hrest, h] at hfirst
    cases hfirst
  have hword : isWordChar c = false := by
    by_contra hc
    rw [Bool.not_eq_false] at hc
    exact hnone (.word [c]) ⟨by simp, List.forall_mem_singleton.2 hc⟩ ⟨after, rfl⟩
  have hunclosed (hmark : c = '"' ∨ c = '\'') : NoLexeme (c :: after) := by
    refine .quote hmark ?_
    rintro body content rest hbody rfl
    exact hnone (.quoted c body) ⟨hmark, hbody.isBody⟩ ⟨rest, by simp [Lexeme.source]⟩
  have hsign (hc : c ∈ ['=', '!', '~']) : NoLexeme (c :: after) :=
    .sign hc fun symbol hsymbol => hnone (.operator symbol) hsymbol
  have hreserved : isReserved c := by
    simpa [isWordChar, hb] using hword
  simp only [isReserved, List.mem_cons, List.not_mem_nil, or_false, decide_eq_true_eq] at hreserved
  rcases hreserved with rfl | rfl | rfl | rfl | rfl | rfl | rfl | rfl | rfl | rfl | rfl
  · exact hunclosed (.inl rfl)
  · exact hunclosed (.inr rfl)
  · exact absurd ⟨after, rfl⟩ (hnone .openParen trivial)
  · exact absurd ⟨after, rfl⟩ (hnone .closeParen trivial)
  · exact absurd ⟨after, rfl⟩ (hnone .semicolon trivial)
  · exact absurd ⟨after, rfl⟩ (hnone .comma trivial)
  · exact hsign (by decide)
  · exact hsign (by decide)
  · exact hsign (by decide)
  · exact absurd ⟨after, rfl⟩ (hnone (.operator ['<']) (.inl (by decide)))
  · exact absurd ⟨after, rfl⟩ (hnone (.operator ['>']) (.inl (by decide)))

/-- A text is tiled by its tokens, which follow each other and are not empty, or it is refused with
the first character that starts no lexeme: the text before has tokens, and the character is a quote
that is never closed or a sign that starts no operator. -/
theorem Token.tiles_or_stuck (text : String) :
    (∃ tokens, Token.ofText text = .ok tokens ∧ Tiles [] text.toList tokens ∧
      (tokens.Pairwise fun s t => s.span.stop ≤ t.span.offset) ∧
      ∀ t ∈ tokens, 0 < t.span.length) ∨
    ∃ e before after, Token.ofText text = .error e ∧
      Query.ofText text = .error ⟨.lexical e, text⟩ ∧
      text.toList = before ++ e.unexpected :: after ∧ e.position = byteLength before ∧
      (∃ tokens, Token.ofText (String.ofList before) = .ok tokens) ∧
      NoLexeme (e.unexpected :: after) := by
  cases hcut : Lexeme.cutFrom 0 text.toList with
  | ok placed =>
    have htokens : Token.ofText text = .ok (Token.classify .expression placed) := by
      unfold Token.ofText Lexeme.cut
      rw [hcut]
      rfl
    have htiles : Tiles [] text.toList (Token.classify .expression placed) :=
      tiles_of_cutFrom rfl (parts_nil _) hcut
    exact .inl ⟨_, htokens, htiles, htiles.bounds.2, fun t ht => (htiles.bounds.1 t ht).2⟩
  | error e =>
    have herror : Token.ofText text = .error e := by
      unfold Token.ofText Lexeme.cut
      rw [hcut]
      rfl
    have hquery : Query.ofText text = .error ⟨.lexical e, text⟩ := by
      unfold Query.ofText
      rw [herror]
    obtain ⟨before, after, htext, hposition, ⟨placed, hbefore⟩, hb, hfirst⟩ :=
      Lexeme.exists_stuck_of_cutFrom hcut
    have htokens : Token.ofText (String.ofList before) =
        .ok (Token.classify .expression placed) := by
      unfold Token.ofText Lexeme.cut
      rw [String.toList_ofList, hbefore]
      rfl
    rw [Nat.zero_add] at hposition
    exact .inr ⟨e, before, after, herror, hquery, htext, hposition, ⟨_, htokens⟩,
      noLexeme_of_first? hb hfirst⟩

end FilterQuery
