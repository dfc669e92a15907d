import FilterQuery.Proofs.Grammar.Contexts
import FilterQuery.Proofs.Grammar.Rendered
import FilterQuery.Proofs.Token.Tiling
import Mathlib.Data.List.Nodup

/-!
# Another value in a query

A value in the text of a query can be replaced by any other, written as `quoteIfNeeded` writes it.

* `Span.resized` : where the rest of a text lies once one stretch has another length;
* `Query.substitute` : a query with another value at one place;
* `classify_substitute` : the lexeme of another value changes no other token;
* `ofText_substitute` : the text with the other value is read as the query with the other value;
* `Query.quoted_reads_back` : so quoting keeps any value what it is, wherever one may stand.
-/

set_option autoImplicit false

namespace FilterQuery

/-- Where the stretch `u` lies once the stretch `s` has `n` bytes. -/
def Span.resized (s : Span) (n : Nat) (u : Span) : Span :=
  if u = s then ⟨s.offset, n⟩
  else if u.offset < s.offset then u
  else ⟨u.offset - s.length + n, u.length⟩

/-- The query with the value `v` for the one at `s`, written in `n` bytes. -/
def Query.substitute (s : Span) (v : String) (n : Nat) (q : Query) : Query :=
  q.map (Placed.place (s.resized n) ∘ Placed.substitute s v)

/-- The tokens with the value `v` for the one at `s`, written in `n` bytes. -/
def Token.substituteAll (s : Span) (v : String) (n : Nat) (tokens : List Token) : List Token :=
  tokens.map (Token.place (s.resized n) ∘ Token.substitute s v)

namespace Grammar
open Lexeme (cutFrom shiftBy)
open Token (classify)

/-! ### The tokens around a value -/

section Around

variable {s : Span} {v : String} {n : Nat} {t : Token}

theorem substitute_of_before (h : t.span.offset < s.offset) :
    (t.substitute s v).place (s.resized n) = t := by
  have hne : t.span ≠ s := by
    rintro rfl
    exact absurd h (Nat.lt_irrefl _)
  rw [Token.substitute, if_neg fun h => hne h.2, Token.place, Span.resized, if_neg hne, if_pos h]

theorem substitute_self (hk : t.kind = .value) :
    (t.substitute t.span v).place (t.span.resized n) = ⟨.value, v, ⟨t.span.offset, n⟩⟩ := by
  rw [Token.substitute, if_pos ⟨hk, rfl⟩, Token.place, Span.resized, if_pos rfl, hk]

theorem substitute_of_after (hs : 0 < s.length) :
    ((t.place (Span.shift (s.offset + s.length))).substitute s v).place (s.resized n) =
      t.place (Span.shift (s.offset + n)) := by
  have hoffset : s.offset < (Span.shift (s.offset + s.length) t.span).offset := by
    simp only [Span.shift]
    omega
  have hne : Span.shift (s.offset + s.length) t.span ≠ s := by
    intro h
    rw [h] at hoffset
    exact absurd hoffset (Nat.lt_irrefl _)
  rw [Token.substitute, if_neg fun h => hne h.2]
  simp only [Token.place]
  rw [Span.resized, if_neg hne, if_neg (Nat.lt_asymm hoffset)]
  simp only [Span.shift, Token.mk.injEq, Span.mk.injEq, and_true, true_and]
  omega

end Around

section Substitution

variable {text : String} {q : Query} {tokens : List Token} {t : Token} {v : String}
  {before after : List (Nat × Lexeme)} {start : Nat} {l : Lexeme} {o : Operand}

/-- Where a value stands, the lexeme of another value is a value too, and changes no other token. -/
theorem classify_substitute (hplace : IsOperandPlace before after) (base : List (Nat × Lexeme))
    (hk : ((Context.after .expression before).read l).1 = .value)
    (hbefore : ∀ x ∈ before, x.1 < start) (hl : 0 < byteLength l.source) (ho : o.content = v) :
    classify .expression (before ++ (start, o.lexeme) ::
        shiftBy (start + byteLength o.lexeme.source) base) =
      Token.substituteAll ⟨start, byteLength l.source⟩ v (byteLength o.lexeme.source)
        (classify .expression
          (before ++ (start, l) :: shiftBy (start + byteLength l.source) base)) := by
  have hread := read_operand hplace.context hk o
  have hfront : Token.substituteAll ⟨start, byteLength l.source⟩ v (byteLength o.lexeme.source)
      (classify .expression before) = classify .expression before := by
    rw [Token.substituteAll, List.map_congr_left, List.map_id]
    intro t ht
    obtain ⟨init, position, m, tail, rfl, rfl⟩ := exists_lexeme_of_mem_classify ht
    have hposition := hbefore (position, m) (by simp)
    exact substitute_of_before hposition
  have hback (c : Context) :
      Token.substituteAll ⟨start, byteLength l.source⟩ v (byteLength o.lexeme.source)
        ((classify c base).map (Token.place (Span.shift (start + byteLength l.source)))) =
      (classify c base).map
        (Token.place (Span.shift (start + byteLength o.lexeme.source))) := by
    rw [Token.substituteAll, List.map_map]
    apply List.map_congr_left
    intro t _
    exact substitute_of_after (s := ⟨start, byteLength l.source⟩) hl
  have hvalue := substitute_self (v := v) (n := byteLength o.lexeme.source)
    (t := ⟨.value, String.ofList l.content, ⟨start, byteLength l.source⟩⟩) rfl
  rw [classify_append, classify_append, classify_cons, classify_cons, hread, hk, classify_shiftBy,
    classify_shiftBy, Token.substituteAll, List.map_append, List.map_cons, ← Token.substituteAll,
    ← Token.substituteAll, hfront, hback, Function.comp_apply, hvalue, ← ho]
  rfl

/-- No word goes on where a mark or a blank follows. -/
theorem stops_of_mark {position : Nat} {back : List Char} (h : cutFrom position back = .ok after)
    (hmark : ∀ x ∈ after.head?, x.2 ∈ [.closeParen, .semicolon, .comma]) (o : Operand) :
    o.lexeme.Stops back := by
  cases o with
  | quoted mark body => trivial
  | word word =>
    intro c hc
    obtain ⟨tail, rfl⟩ := List.head?_eq_some_iff.1 hc
    rcases (Lexeme.munch_of_cutFrom h).head with hb | ⟨m, hm, hcm⟩
    · simp [isWordChar, hb]
    · rw [List.head?_map] at hm
      obtain ⟨x, hx, rfl⟩ := Option.map_eq_some_iff.1 hm
      have := hmark x hx
      simp only [List.mem_cons, List.not_mem_nil, or_false] at this
      rcases this with hx | hx | hx
      all_goals
        rw [hx] at hcm
        cases hcm
        decide

theorem length_pos_of_isProper (h : l.IsProper) : 0 < byteLength l.source := by
  obtain ⟨_, _, hsource, -⟩ := h.source_eq_cons
  exact byteLength_pos (hsource ▸ List.cons_ne_nil _ _)

/-- A value of a query can be replaced by any other in its text. -/
theorem ofText_substitute (hq : Query.ofText text = .ok q) (ht : Token.ofText text = .ok tokens)
    (hmem : t ∈ tokens) (hk : t.kind = .value) (v : List Char) :
    ∃ front slice back, text.toList = front ++ (slice ++ back) ∧
      t.span = ⟨byteLength front, byteLength slice⟩ ∧
      Token.ofText (String.ofList (front ++ (quoteIfNeeded v ++ back))) =
        .ok (Token.substituteAll t.span (String.ofList v) (byteLength (quoteIfNeeded v)) tokens) ∧
      Query.ofText (String.ofList (front ++ (quoteIfNeeded v ++ back))) =
        .ok (q.substitute t.span (String.ofList v) (byteLength (quoteIfNeeded v))) := by
  obtain ⟨placed, hcut, rfl⟩ := tokenOfText_eq_ok.1 ht
  obtain ⟨before, start, l, after, rfl, rfl⟩ := exists_lexeme_of_mem_classify hmem
  obtain ⟨front, back, htext, hstart, hfront, hl, hback⟩ := Lexeme.exists_cutFrom_split hcut
  obtain ⟨base, hbase, rfl⟩ := Lexeme.exists_cutFrom_zero hback
  have hread : Query.ofTokens (classify .expression
      (before ++ (start, l) :: shiftBy (start + byteLength l.source) base)) = .ok q := by
    rw [ofText_of_tokens ht] at hq
    exact mapError_eq_ok.1 hq
  have hplace := isOperandPlace_of_ofTokens hread hk
  rw [Nat.zero_add] at hstart
  subst hstart
  -- the new lexeme is cut where the old one was, and the others as before
  have hproper := Operand.isProper_ofValue v
  have hleft : ∀ x ∈ before.getLast?, x.2.Stops ((Operand.ofValue v).lexeme.source ++ back) :=
    fun x hx => hplace.before x hx _ (Operand.source_head hproper back)
  have hright : (Operand.ofValue v).lexeme.Stops back := stops_of_mark hback hplace.after _
  have hcut' := Lexeme.cutFrom_between hfront hbase hproper hleft hright
  have hbefore : ∀ x ∈ before, x.1 < byteLength front := by
    intro x hx
    have := Lexeme.lt_of_cutFrom hfront x hx
    rwa [Nat.zero_add] at this
  have htokens := classify_substitute hplace base hk hbefore
    (length_pos_of_isProper hl.1) (Operand.content_ofValue v)
  rw [Operand.source_ofValue] at hcut' htokens
  have htokens' : Token.ofText (String.ofList (front ++ (quoteIfNeeded v ++ back))) =
      .ok (Token.substituteAll ⟨byteLength front, byteLength l.source⟩ (String.ofList v)
        (byteLength (quoteIfNeeded v)) (classify .expression
          (before ++ (byteLength front, l) ::
            shiftBy (byteLength front + byteLength l.source) base))) := by
    refine tokenOfText_eq_ok.2 ⟨_, ?_, htokens⟩
    rw [String.toList_ofList]
    exact hcut'
  -- the new tokens are those of the query with the other value
  have hrespects := (respects_place (Span.resized ⟨byteLength front, byteLength l.source⟩
    (byteLength (quoteIfNeeded v)))).comp
      (respects_substitute ⟨byteLength front, byteLength l.source⟩ (String.ofList v))
  have hquery := ((isQuery_of_ofTokens hread).map hrespects).ofTokens
  exact ⟨front, l.source, back, htext, rfl, htokens', ofText_eq_ok.2 ⟨_, htokens', hquery⟩⟩

end Substitution

/-! ### The places of values -/

/-- The place of a value. -/
def Content.valueSpan? : Content → Option Span
  | .value _ span => some span
  | _ => none

theorem argumentSpans_eq_filterMap {p : Placed}
    (h : p.argumentSpans.length = p.arguments.length) :
    p.argumentSpans = (contents p).filterMap Content.valueSpan? := by
  have hzip : ∀ {arguments : List String} {spans : List Span}, spans.length = arguments.length →
      (List.zipWith Content.value arguments spans).filterMap Content.valueSpan? = spans := by
    intro arguments spans hlength
    induction arguments generalizing spans with
    | nil => rw [List.length_eq_zero_iff.1 hlength, List.zipWith_nil_left, List.filterMap_nil]
    | cons a arguments ih =>
      obtain ⟨span, spans, rfl⟩ := List.exists_cons_of_length_eq_add_one hlength
      have htail := ih (Nat.succ.inj hlength)
      rw [List.zipWith_cons_cons, List.filterMap_cons, htail]
      rfl
  exact (hzip h).symm

theorem filterMap_content_valueSpan (tokens : List Token) :
    (tokens.filterMap content?).filterMap Content.valueSpan? =
      (tokens.filter fun t => t.kind = .value).map (·.span) := by
  induction tokens with
  | nil => rfl
  | cons t tokens ih =>
    obtain ⟨kind, text, span⟩ := t
    cases kind <;> simp [List.filterMap_cons, content?, Content.valueSpan?, ← ih]

/-- The values of a query stand where the tokens that are values do. -/
theorem IsQuery.argumentSpans {tokens : List Token} {q : Query} (h : IsQuery tokens q) :
    q.atoms.flatMap (·.argumentSpans) =
      (tokens.filter fun t => t.kind = .value).map (·.span) := by
  rw [← filterMap_content_valueSpan, ← h.contents, List.filterMap_flatMap]
  apply List.flatMap_congr
  intro p hp
  exact argumentSpans_eq_filterMap (h.length_spans p hp)

theorem count_argumentSpans {text : String} {q : Query} {tokens : List Token} {t : Token}
    (hq : Query.ofText text = .ok q) (ht : Token.ofText text = .ok tokens) (hmem : t ∈ tokens)
    (hk : t.kind = .value) : (q.atoms.flatMap (·.argumentSpans)).count t.span = 1 := by
  obtain ⟨placed, hcut, rfl⟩ := tokenOfText_eq_ok.1 ht
  have htiles : Tiles [] text.toList (classify .expression placed) :=
    tiles_of_cutFrom rfl (parts_nil _) hcut
  have hbounds := htiles.bounds
  rw [ofText_of_tokens ht] at hq
  rw [(isQuery_of_ofTokens (mapError_eq_ok.1 hq)).argumentSpans]
  have hnodup : ((classify .expression placed).map (·.span)).Nodup := by
    rw [List.Nodup, List.pairwise_map]
    refine (List.Pairwise.and_mem.1 hbounds.2).imp ?_
    rintro s u ⟨hs, -, hstop⟩ heq
    have := (hbounds.1 s hs).2
    rw [← heq, Span.stop] at hstop
    omega
  apply List.count_eq_one_of_mem (hnodup.sublist (List.filter_sublist.map _))
  exact List.mem_map_of_mem (List.mem_filter.2 ⟨hmem, by simp [hk]⟩)

/-! ### Values after an operator -/

/-- A comparison of the attribute `a`. -/
def Clause.ofArguments (op : Operator) (a : Arguments) (hs : a.Suits op.arity) : Clause where
  selector := ['a']
  operator := op
  symbol := op.symbol.toList
  arguments := a
  named := by decide
  spelled := .inl String.ofList_toList
  suited := hs

theorem exists_tokens_of_arguments {text : String} {op : Operator} {a : Arguments}
    {body : List Char} (hs : a.Suits op.arity) (hw : Writes a.lexemes body)
    (htext : text.toList = 'a' :: (op.symbol.toList ++ body)) :
    ∃ tokens, Token.ofText text = .ok tokens ∧ tokens.map tokenSense =
      (.selector, "a") :: (.operator, op.symbol) :: a.roles.map roleSense := by
  have hword : (Lexeme.word ['a']).IsProper :=
    ⟨List.cons_ne_nil _ _, List.forall_mem_singleton.2 (by decide)⟩
  have hclause : Writes (Alternatives.one (.one (.comparison (.ofArguments op a hs)))).lexemes
      text.toList := by
    rw [htext, Alternatives.lexemes_one, Conjunction.lexemes_one, Item.lexemes_comparison]
    exact .cons hword (.cons (isProper_symbol op) hw)
  have hmunch := Alternatives.munch_of_writes hclause
  rw [String.ofList_toList] at hmunch
  obtain ⟨tokens, ht, hsense⟩ := Alternatives.exists_tokens hmunch
  refine ⟨tokens, ht, ?_⟩
  have hsymbol : roleSense (.operator, .operator op.symbol.toList) = (.operator, op.symbol) := by
    rw [roleSense, Lexeme.content, Lexeme.source, String.ofList_toList]
    rintro _ _ ⟨⟩
  rw [hsense, Alternatives.roles, Conjunction.roles, Item.roles, Clause.roles, List.map_cons,
    List.map_cons, ← hsymbol]
  rfl

theorem writes_ofValue (v : List Char) :
    Writes [(Operand.ofValue v).lexeme] (quoteIfNeeded v) := by
  rw [← Operand.source_ofValue]
  exact .singleton (Operand.isProper_ofValue v)

theorem roleSense_ofValue (v : String) :
    roleSense (.value, (Operand.ofValue v.toList).lexeme) = (.value, v) := by
  rw [roleSense, ← Operand.content, Operand.content_ofValue, String.ofList_toList]

/-- A value after an operator. -/
theorem readsAs_quoteIfNeeded (v : String) :
    Token.readsAs (String.ofList (quoteIfNeeded v.toList)) v = .ok true := by
  have hsuits : (Arguments.bare (Operand.ofValue v.toList)).Suits Operator.equal.arity := by
    rintro ⟨⟩
  have htext : ("a==" ++ String.ofList (quoteIfNeeded v.toList)).toList =
      'a' :: (Operator.equal.symbol.toList ++ quoteIfNeeded v.toList) := by
    rw [String.toList_append, String.toList_ofList, String.toList_ofList]
    rfl
  obtain ⟨tokens, ht, hsense⟩ := exists_tokens_of_arguments hsuits (writes_ofValue _) htext
  obtain ⟨_, _, rfl, -, hsense⟩ := List.map_eq_cons_iff.1 hsense
  obtain ⟨_, _, rfl, -, hsense⟩ := List.map_eq_cons_iff.1 hsense
  obtain ⟨t, _, rfl, hvalue, hsense⟩ := List.map_eq_cons_iff.1 hsense
  obtain rfl := List.map_eq_nil_iff.1 hsense
  rw [roleSense_ofValue] at hvalue
  rw [Token.readsAs, ht, Except.map]
  exact congrArg Except.ok (decide_eq_true (Prod.mk.inj hvalue).2)

/-- A value in a list. -/
theorem tokens_list_quoteIfNeeded (v : String) :
    (Token.ofText ("a=in=(" ++ String.ofList (quoteIfNeeded v.toList) ++ ")")).map
        (List.map tokenSense) =
      .ok [(.selector, "a"), (.operator, "=in="), (.openGroup, "("), (.value, v),
        (.closeGroup, ")")] := by
  have hsuits : (Arguments.list (Operand.ofValue v.toList) []).Suits Operator.oneOf.arity := by
    refine ⟨?_, ?_⟩ <;> rintro ⟨⟩
  have hw : Writes (Arguments.list (Operand.ofValue v.toList) []).lexemes
      ('(' :: quoteIfNeeded v.toList ++ [')']) :=
    .cons (l := .openParen) trivial
      ((writes_ofValue v.toList).append (.singleton (l := .closeParen) trivial))
  have htext : ("a=in=(" ++ String.ofList (quoteIfNeeded v.toList) ++ ")").toList =
      'a' :: (Operator.oneOf.symbol.toList ++ ('(' :: quoteIfNeeded v.toList ++ [')'])) := by
    rw [String.toList_append, String.toList_append, String.toList_ofList, String.toList_ofList]
    rfl
  obtain ⟨tokens, ht, hsense⟩ := exists_tokens_of_arguments hsuits hw htext
  rw [ht, Except.map, hsense, Arguments.roles, Arguments.valueRoles, List.map_append, List.map_cons,
    List.map_singleton, List.map_singleton, roleSense_ofValue]
  rfl

end Grammar

namespace Query
open Grammar

/-- Quoting keeps any value what it is. Wherever a value stands in the text of a query, any other can
be written in its place: this gives a query again, with the same tokens and the same comparisons but
for the one value that stands there, and with what comes after it moved along. -/
theorem quoted_reads_back (v : String) :
    (∀ (text : String) (q : Query) (tokens : List Token) (t : Token),
      ofText text = .ok q → Token.ofText text = .ok tokens → t ∈ tokens → t.kind = .value →
      (q.atoms.flatMap (·.argumentSpans)).count t.span = 1 ∧
      ∃ front slice back, text.toList = front ++ (slice ++ back) ∧
        t.span = ⟨byteLength front, byteLength slice⟩ ∧
        Token.ofText (String.ofList (front ++ (quoteIfNeeded v.toList ++ back))) =
          .ok (Token.substituteAll t.span v (byteLength (quoteIfNeeded v.toList)) tokens) ∧
        ofText (String.ofList (front ++ (quoteIfNeeded v.toList ++ back))) =
          .ok (q.substitute t.span v (byteLength (quoteIfNeeded v.toList)))) ∧
    Token.readsAs (String.ofList (quoteIfNeeded v.toList)) v = .ok true ∧
    (Token.ofText ("a=in=(" ++ String.ofList (quoteIfNeeded v.toList) ++ ")")).map
        (List.map tokenSense) =
      .ok [(.selector, "a"), (.operator, "=in="), (.openGroup, "("), (.value, v),
        (.closeGroup, ")")] := by
  refine ⟨?_, readsAs_quoteIfNeeded v, tokens_list_quoteIfNeeded v⟩
  intro text q tokens t hq ht hmem hk
  have hsubstitute := ofText_substitute hq ht hmem hk v.toList
  rw [String.ofList_toList] at hsubstitute
  exact ⟨count_argumentSpans hq ht hmem hk, hsubstitute⟩

theorem quoted_reads_back_in_list :
    ∃ q tokens, ofText "a=in=(x,y)" = .ok q ∧ Token.ofText "a=in=(x,y)" = .ok tokens ∧
      ⟨.value, "x", ⟨6, 1⟩⟩ ∈ tokens ∧
      ∃ front slice back, "a=in=(x,y)".toList = front ++ (slice ++ back) ∧
        byteLength front = 6 ∧ byteLength slice = 1 ∧
        ofText (String.ofList (front ++ ("\"p)\\\"\"".toList ++ back))) =
          .ok (q.substitute ⟨6, 1⟩ "p)\"" 6) := by
  have hq : (ofText "a=in=(x,y)").toOption.isSome := by decide +kernel
  have ht : (Token.ofText "a=in=(x,y)").toOption.any (⟨.value, "x", ⟨6, 1⟩⟩ ∈ ·) := by
    decide +kernel
  cases hquery : ofText "a=in=(x,y)" with
  | error e =>
    rw [hquery] at hq
    cases hq
  | ok q =>
    cases htokens : Token.ofText "a=in=(x,y)" with
    | error e =>
      rw [htokens] at ht
      cases ht
    | ok tokens =>
      rw [htokens] at ht
      have hmem : ⟨.value, "x", ⟨6, 1⟩⟩ ∈ tokens := of_decide_eq_true ht
      obtain ⟨-, front, slice, back, htext, hspan, -, hread⟩ :=
        (quoted_reads_back "p)\"").1 _ q tokens _ hquery htokens hmem rfl
      obtain ⟨hfront, hslice⟩ := Span.mk.inj hspan
      exact ⟨q, tokens, rfl, rfl, hmem, front, slice, back, htext, hfront.symm, hslice.symm, hread⟩

end Query
end FilterQuery
