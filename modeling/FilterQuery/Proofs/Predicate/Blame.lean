import FilterQuery.Diagnosis
import FilterQuery.Proofs.Grammar.Blame
import FilterQuery.Proofs.Predicate.Faults
import FilterQuery.Proofs.Resolution
import FilterQuery.Proofs.Token.Places

/-!
# What failures blame

Each failure says which part of the text is to blame for it.

* `segmentSpan_eq`, `Span.Marks.segment` : the place of a segment of a selector;
* `IsRefusal` : why a comparison does not compile, `Placed.isRefusal_of_compile`;
* `QueryFault.Blames` : what each kind of failure blames;
* `Predicate.blames_of_ofText` : a text that has no predicate is refused with a failure that blames
  what is wrong with it.
-/

set_option autoImplicit false

namespace FilterQuery
open Grammar

/-! ### Segments of selectors -/

theorem intercalate_cons (mark : Char) (segment : List Char) (back : List (List Char)) :
    [mark].intercalate (segment :: back) = segment ++ back.flatMap (mark :: ·) := by
  induction back generalizing segment with
  | nil => rw [List.intercalate_singleton, List.flatMap_nil, List.append_nil]
  | cons next back ih =>
    rw [List.intercalate_cons_cons, ih, List.flatMap_cons]
    simp

theorem intercalate_append_cons (mark : Char) (front : List (List Char)) (segment : List Char)
    (back : List (List Char)) : [mark].intercalate (front ++ segment :: back) =
      front.flatMap (· ++ [mark]) ++ (segment ++ back.flatMap (mark :: ·)) := by
  induction front with
  | nil => exact intercalate_cons mark segment back
  | cons first front ih =>
    obtain ⟨next, rest, hrest⟩ := List.exists_cons_of_ne_nil
      (List.append_ne_nil_of_right_ne_nil front (List.cons_ne_nil segment back))
    rw [hrest] at ih
    rw [List.cons_append, hrest, List.intercalate_cons_cons, ih, List.flatMap_cons]
    simp

theorem segmentSpan_eq (selector : Span) (offset : Nat) (front : List (List Char))
    (segment : List Char) (back : List (List Char)) :
    segmentSpan selector offset front.length (front ++ segment :: back) =
      ⟨offset + byteLength (front.flatMap (· ++ ['.'])), byteLength segment⟩ := by
  induction front generalizing offset with
  | nil => rfl
  | cons first front ih =>
    rw [List.cons_append, List.length_cons, segmentSpan, ih]
    simp only [List.flatMap_cons, byteLength_append, byteLength_cons, byteLength_nil]
    congr 1
    have : '.'.utf8Size = 1 := rfl
    omega

/-- The place of a segment of a selector is exactly that of the segment. -/
theorem Span.Marks.segment {span : Span} {text path : List Char} (h : span.Marks text path)
    {front back : List (List Char)} {segment : List Char}
    (hpath : path.splitOn '.' = front ++ segment :: back) :
    (segmentSpan span span.offset front.length (path.splitOn '.')).Marks text segment := by
  obtain ⟨before, after, rfl, rfl⟩ := h
  have hjoined : path = front.flatMap (· ++ ['.']) ++ (segment ++ back.flatMap ('.' :: ·)) := by
    rw [← intercalate_append_cons, ← hpath, List.intercalate_splitOn]
  refine ⟨before ++ front.flatMap (· ++ ['.']), back.flatMap ('.' :: ·) ++ after, ?_, ?_⟩
  · conv_lhs => rw [hjoined]
    simp
  · rw [hpath, segmentSpan_eq, byteLength_append]

/-! ### Comparisons that do not compile -/

section Refusals

variable {schema : Schema} {root : String} {options : Options} {p : Placed}

/-- Why a comparison does not compile. -/
inductive IsRefusal [PatternSize] (schema : Schema) (root : String) (p : Placed) :
    CompileError → Prop
  | unresolved {e : ResolveError} : resolve schema root p.selector = .error e →
      IsRefusal schema root p (e.compileError p)
  | unsupported {found : Resolution} : resolve schema root p.selector = .ok found →
      p.operator.supports found.type = false →
      IsRefusal schema root p
        (.unsupportedOperator p.operator found.type p.selector p.operatorSpan p.selectorSpan)
  | patternMissing : p.arguments = [] → IsRefusal schema root p .patternMissing
  | patternTooLarge {source : String} {others : List String} {foldCase : Bool} :
      p.arguments = source :: others → LikePattern.ofSource? source foldCase = none →
      IsRefusal schema root p
        (.patternTooLarge source (p.argumentSpans.head?.getD p.operatorSpan))
  | coercion {argument : String} {span : Span} {type : ValueType} {error : CoercionError} :
      (argument, span) ∈ p.arguments.zip p.argumentSpans → coerce argument type = .error error →
      IsRefusal schema root p (.coercion argument type error span)

theorem Operator.supports_string (op : Operator) : op.supports .string := by
  cases op <;> rfl

/-- Only operators that stay as they are can be refused. -/
theorem Placed.effectiveOperator_of_unsupported {type : ValueType}
    (h : (p.effectiveOperator options type).supports type = false) :
    p.effectiveOperator options type = p.operator := by
  apply effectiveOperator_of_hasNoWildcard
  rintro - - rfl
  rw [Operator.supports_string] at h
  cases h

theorem Placed.isRefusal_of_compile [PatternSize] {e : CompileError}
    (h : p.compile schema root options = .error e) : IsRefusal schema root p e := by
  cases compile_eq_error_iff.1 h with
  | unresolved hresolve => exact .unresolved hresolve
  | unsupported hfound hop hsupports =>
    subst hop
    have hop := effectiveOperator_of_unsupported hsupports
    rw [hop] at hsupports ⊢
    exact .unsupported hfound hsupports
  | argument _ _ _ hfault =>
    cases hfault with
    | patternMissing _ _ harguments => exact .patternMissing harguments
    | patternTooLarge _ _ harguments hof => exact .patternTooLarge harguments hof
    | @coercion front _ argument _ _ _ _ harguments hspan _ herror =>
      have hargument : p.arguments[front.length]? = some argument := by simp [harguments]
      exact .coercion (List.mem_of_getElem? (List.getElem?_zip_eq_some.2 ⟨hargument, hspan⟩)) herror

end Refusals

/-! ### Failures -/

/-- What a failure blames: a character that starts no lexeme, a token that does not fit, a list of
values from one parenthesis to the other, or the end of the last token; the first segment of a selector
that leads nowhere; an operator that the type of the attribute does not have, together with its
selector; or a value that is not of the type. A type that is not declared has no place. -/
inductive QueryFault.Blames [PatternSize] (schema : Schema) (root text : String) : QueryFault → Prop
  | character {e : LexError} : e.span.Marks text.toList [e.unexpected] →
      Blames schema root text (.lexical e)
  | token {expected : Expected} {found : Found} {kind : TokenKind} {content : String}
      {slice : List Char} {span : Span} : HasToken text kind content slice span →
      found = .token kind content ∨ found = .text content →
      Blames schema root text (.grammatical ⟨expected, found, span⟩)
  | list {tokens front inner back values : List Token} {opening closing : Token}
      {expected : Expected} {found : Found} {span : Span} {between : List Char} :
      Token.ofText text = .ok tokens → tokens = front ++ opening :: (inner ++ closing :: back) →
      opening.kind = .openGroup → IsValues inner values → closing.kind = .closeGroup →
      found = .list ∨ found = .values values.length →
      span = .upTo opening.span.offset closing.span.stop →
      span.Marks text.toList ('(' :: between ++ [')']) →
      Blames schema root text (.grammatical ⟨expected, found, span⟩)
  | ending {tokens : List Token} {expected : Expected} {span : Span} :
      Token.ofText text = .ok tokens → span = ⟨Query.endOf tokens, 0⟩ → span.Marks text.toList [] →
      Blames schema root text (.grammatical ⟨expected, .nothing, span⟩)
  | unknownType {name : String} : Blames schema root text (.semantic (.unknownType name))
  | unknownAttribute {path segment type : String} {fault : SegmentFault} {available : List String}
      {front back : List (List Char)} {selectorSpan span : Span} :
      HasToken text .selector path path.toList selectorSpan →
      resolve schema root path =
        .error (.unknownAttribute path segment front.length type fault available) →
      path.toList.splitOn '.' = front ++ segment.toList :: back →
      span.offset = selectorSpan.offset + byteLength (front.flatMap (· ++ ['.'])) →
      span.Marks text.toList segment.toList →
      Blames schema root text
        (.semantic (.unknownAttribute path segment type fault available span))
  | unsupportedOperator {op : Operator} {type : ValueType} {path spelling : String}
      {operatorSpan selectorSpan : Span} : op.supports type = false → op.IsSpelling spelling →
      HasToken text .operator spelling spelling.toList operatorSpan →
      HasToken text .selector path path.toList selectorSpan →
      Blames schema root text
        (.semantic (.unsupportedOperator op type path operatorSpan selectorSpan))
  | coercion {literal : String} {type : ValueType} {error : CoercionError} {slice : List Char}
      {span : Span} : coerce literal type = .error error →
      HasToken text .value literal slice span → WritesValue slice literal.toList →
      Blames schema root text (.semantic (.coercion literal type error span))
  | patternTooLarge {literal : String} {foldCase : Bool} {slice : List Char} {span : Span} :
      LikePattern.ofSource? literal foldCase = none → HasToken text .value literal slice span →
      WritesValue slice literal.toList →
      Blames schema root text (.semantic (.patternTooLarge literal span))

section Failures

variable {schema : Schema} {root : String} {options : Options} {text : String}

theorem HasToken.marks {kind : TokenKind} {content : String} {slice : List Char} {span : Span}
    (h : HasToken text kind content slice span) : span.Marks text.toList slice := by
  obtain ⟨_, _, _, _, _, _, _, hmarks⟩ := h
  exact hmarks

/-- All places that a failure shows are places of the text. -/
theorem QueryFault.Blames.marks [PatternSize] {e : QueryError} (h : e.fault.Blames schema root text) :
    ∀ label ∈ e.labels, ∃ slice, label.1.Marks text.toList slice := by
  obtain ⟨fault, source⟩ := e
  cases h with
  | character hmarks => exact List.forall_mem_singleton.2 ⟨_, hmarks⟩
  | token ht => exact List.forall_mem_singleton.2 ⟨_, ht.marks⟩
  | list _ _ _ _ _ _ _ hmarks => exact List.forall_mem_singleton.2 ⟨_, hmarks⟩
  | ending _ _ hmarks => exact List.forall_mem_singleton.2 ⟨_, hmarks⟩
  | unknownType => exact List.forall_mem_nil _
  | unknownAttribute _ _ _ _ hmarks => exact List.forall_mem_singleton.2 ⟨_, hmarks⟩
  | unsupportedOperator _ _ hop hselector =>
    exact List.forall_mem_cons.2 ⟨⟨_, hop.marks⟩, List.forall_mem_singleton.2 ⟨_, hselector.marks⟩⟩
  | coercion _ ht _ => exact List.forall_mem_singleton.2 ⟨_, ht.marks⟩
  | patternTooLarge _ ht _ => exact List.forall_mem_singleton.2 ⟨_, ht.marks⟩

theorem blames_of_lexError [PatternSize] {e : LexError} (h : Token.ofText text = .error e) :
    (QueryFault.lexical e).Blames schema root text := by
  unfold Token.ofText at h
  obtain ⟨before, after, htext, hposition, -⟩ :=
    Lexeme.exists_stuck_of_cutFrom (map_eq_error.1 h)
  rw [Nat.zero_add] at hposition
  refine .character ⟨before, after, htext, ?_⟩
  rw [LexError.span, hposition]
  rfl

theorem hasToken_of_mem {tokens : List Token} (h : Token.ofText text = .ok tokens) {t : Token}
    (ht : t ∈ tokens) : ∃ slice, HasToken text t.kind t.text slice t.span ∧
      ∃ before after, t.Stands before slice after := by
  obtain ⟨slice, hmarks, hstands⟩ := exists_stands h ht
  exact ⟨slice, ⟨tokens, t, h, ht, rfl, rfl, rfl, hmarks⟩, hstands⟩

theorem blames_of_syntaxError [PatternSize] {tokens : List Token} {e : SyntaxError}
    (h : Token.ofText text = .ok tokens) (he : Query.ofTokens tokens = .error e) :
    (QueryFault.grammatical e).Blames schema root text := by
  have htiles := tiles_of_ofText h
  cases blames_of_ofTokens he with
  | token ht hfound =>
    obtain ⟨slice, htoken, -⟩ := hasToken_of_mem h ht
    exact .token htoken hfound
  | list htokens ho hvalues hc hfound =>
    rw [htokens] at htiles
    obtain ⟨between, hmarks⟩ := htiles.marks_list ho hc
    exact .list h htokens ho hvalues hc hfound rfl hmarks
  | ending => exact .ending h rfl htiles.marks_end

/-! ### Parts of comparisons -/

/-- The parts of a comparison stand in the text as it says. -/
structure IsPlacedIn (text : String) (p : Placed) : Prop where
  selector : HasToken text .selector p.selector p.selector.toList p.selectorSpan
  operator : ∃ spelling, p.operator.IsSpelling spelling ∧
    HasToken text .operator spelling spelling.toList p.operatorSpan
  value : ∀ argument span, (argument, span) ∈ p.arguments.zip p.argumentSpans →
    ∃ slice, HasToken text .value argument slice span ∧ WritesValue slice argument.toList
  writable : IsWritable p.toComparison
  length_spans : p.argumentSpans.length = p.arguments.length

theorem isPlacedIn_of_ofText {q : Query} (h : Query.ofText text = .ok q) {p : Placed}
    (hp : p ∈ q.atoms) : IsPlacedIn text p := by
  obtain ⟨tokens, htokens, hq⟩ := ofText_eq_ok.1 h
  have hquery := isQuery_of_ofTokens hq
  have exists_token {c : Content} (hc : c ∈ contents p) : ∃ t ∈ tokens, content? t = some c := by
    rw [← List.mem_filterMap, ← hquery.contents]
    exact List.mem_flatMap.2 ⟨p, hp, hc⟩
  refine ⟨?_, ?_, ?_, isWritable_of_ofText h p hp, hquery.length_spans p hp⟩
  · obtain ⟨t, ht, hcontent⟩ := exists_token (c := .selector _ _) List.mem_cons_self
    obtain ⟨hk, htext, hspan⟩ := content?_eq_selector hcontent
    obtain ⟨slice, htoken, _, _, hstands⟩ := hasToken_of_mem htokens ht
    rw [hstands.eq_text (.inl hk), hk, htext, hspan] at htoken
    exact htoken
  · obtain ⟨t, ht, hcontent⟩ := exists_token (c := .operator (some p.operator) p.operatorSpan)
      (List.mem_cons_of_mem _ List.mem_cons_self)
    obtain ⟨hk, hspelling, hspan⟩ := content?_eq_operator hcontent
    obtain ⟨slice, htoken, _, _, hstands⟩ := hasToken_of_mem htokens ht
    rw [hstands.eq_text (.inr hk), hk, hspan] at htoken
    exact ⟨t.text, hspelling, htoken⟩
  · intro argument span hmem
    have hvalue : Content.value argument span ∈ contents p := by
      refine List.mem_cons_of_mem _ (List.mem_cons_of_mem _ ?_)
      rw [← List.map_uncurry_zip_eq_zipWith]
      exact List.mem_map.2 ⟨_, hmem, rfl⟩
    obtain ⟨t, ht, hcontent⟩ := exists_token hvalue
    obtain ⟨hk, htext, hspan⟩ := content?_eq_value hcontent
    obtain ⟨slice, htoken, _, _, hstands⟩ := hasToken_of_mem htokens ht
    have hwrites := hstands.writesValue hk
    rw [hk, htext, hspan] at htoken
    rw [htext] at hwrites
    exact ⟨slice, htoken, hwrites⟩

theorem IsPlacedIn.blames [PatternSize] {p : Placed} (h : IsPlacedIn text p) {e : CompileError}
    (he : IsRefusal schema root p e) : (QueryFault.semantic e).Blames schema root text := by
  cases he with
  | @unresolved e hresolve =>
    cases e with
    | unknownType name => exact .unknownType
    | unknownAttribute path segment index type fault available =>
      obtain ⟨rfl, front, back, hsplit, rfl⟩ := segment_of_resolve hresolve
      have hmarks := h.selector.marks.segment hsplit
      refine .unknownAttribute h.selector hresolve hsplit ?_ hmarks
      rw [hsplit, segmentSpan_eq]
  | unsupported hfound hsupports =>
    obtain ⟨spelling, hspelling, hop⟩ := h.operator
    exact .unsupportedOperator hsupports hspelling hop h.selector
  | patternMissing harguments => exact absurd harguments h.writable.ne_nil
  | @patternTooLarge source others foldCase harguments hof =>
    have hlength := h.length_spans
    rw [harguments] at hlength
    obtain ⟨span, spans, hspans⟩ := List.exists_cons_of_length_eq_add_one hlength
    have hmem : (source, span) ∈ p.arguments.zip p.argumentSpans := by
      rw [harguments, hspans]
      exact List.mem_cons_self
    obtain ⟨slice, htoken, hwrites⟩ := h.value source span hmem
    rw [hspans]
    exact .patternTooLarge hof htoken hwrites
  | coercion hmem herror =>
    obtain ⟨slice, htoken, hwrites⟩ := h.value _ _ hmem
    exact .coercion herror htoken hwrites

/-- A text that has no predicate is refused with a failure that blames what is wrong with it. No text
leads to a pattern operator without arguments. The failure refers to the text unless it is about a type
that is not declared, all places that it shows are places of the text, and it counts as noticed at the
first of them. -/
theorem Predicate.blames_of_ofText [PatternSize] {e : QueryError}
    (h : ofText text schema root options = .error e) :
    e.fault ≠ .semantic .patternMissing ∧ e.code ≠ "rsql::internal" ∧
    (e.source? = some text ∨ ∃ name, e.fault = .semantic (.unknownType name)) ∧
    e.fault.Blames schema root text ∧
    (∀ label ∈ e.labels, ∃ slice, label.1.Marks text.toList slice) ∧
    e.position? = e.labels.head?.map fun label => label.1.offset := by
  have hsource : e.source = text ∧ e.fault.Blames schema root text := by
    rcases ofText_eq_error.1 h with h | ⟨q, cause, hq, hcause, rfl⟩
    · rcases Grammar.ofText_eq_error.1 h with ⟨e, he, rfl⟩ | ⟨tokens, e, ht, he, rfl⟩
      · exact ⟨rfl, blames_of_lexError he⟩
      · exact ⟨rfl, blames_of_syntaxError ht he⟩
    · obtain ⟨front, p, back, hatoms, -, hp⟩ := Formula.traverse_eq_error_iff.1 hcause
      have hmem : p ∈ q.atoms := by
        rw [hatoms]
        exact List.mem_append_right front List.mem_cons_self
      exact ⟨rfl, (isPlacedIn_of_ofText hq hmem).blames (Placed.isRefusal_of_compile hp)⟩
  obtain ⟨fault, source⟩ := e
  obtain ⟨rfl, hblames⟩ := hsource
  refine ⟨?_, ?_, ?_, hblames, hblames.marks, ?_⟩
  · rintro rfl
    cases hblames
  · cases hblames <;> simp [QueryError.code, CompileError.code]
  · cases hblames
    case unknownType name => exact .inr ⟨name, rfl⟩
    all_goals exact .inl rfl
  · cases hblames <;> rfl

end Failures

theorem Predicate.blames_of_ofText_coercion :
    ∃ e, ofText "a==é;b=gt='x'" smallSchema "T" {} = .error e ∧
      e.labels = [(⟨11, 3⟩, "expected integer")] ∧ e.source? = some "a==é;b=gt='x'" ∧
      e.position? = some 11 ∧ e.fault.Blames smallSchema "T" "a==é;b=gt='x'" ∧
      ∀ label ∈ e.labels, ∃ slice, label.1.Marks "a==é;b=gt='x'".toList slice := by
  have h : (ofText "a==é;b=gt='x'" smallSchema "T" {}).map (fun _ => ()) =
      .error ⟨.semantic (.coercion "x" .integer (.integer .invalidDigit) ⟨11, 3⟩),
        "a==é;b=gt='x'"⟩ := by
    decide +kernel
  have herror := map_eq_error.1 h
  obtain ⟨-, -, -, hblames, hmarks, -⟩ := blames_of_ofText herror
  exact ⟨_, herror, rfl, rfl, rfl, hblames, hmarks⟩

end FilterQuery
