import FilterQuery.Proofs.Grammar.Tokens

/-!
# Tokens that are changed one by one

What the tokens of a query write changes with the tokens, if the change keeps their kinds and, but for
values, their texts.

* `Token.place`, `Placed.place` : tokens and comparisons at other places;
* `Token.substitute`, `Placed.substitute` : another text for the value at one place;
* `Respects g G` : the change `g` of tokens comes with the change `G` of comparisons;
* `IsAlternatives.map`, `IsQuery.map` : the changed tokens write the changed query.
-/

set_option autoImplicit false

namespace FilterQuery

/-- The stretch that lies `n` bytes further on. -/
def Span.shift (n : Nat) (s : Span) : Span := ⟨s.offset + n, s.length⟩

/-- The token at another place. -/
def Token.place (f : Span → Span) (t : Token) : Token := { t with span := f t.span }

/-- The comparison with its parts at other places. -/
def Placed.place (f : Span → Span) (p : Placed) : Placed where
  toComparison := p.toComparison
  selectorSpan := f p.selectorSpan
  operatorSpan := f p.operatorSpan
  argumentSpans := p.argumentSpans.map f

/-- What a query says does not depend on the places of its parts. -/
theorem Query.bare_place (f : Span → Span) (q : Query) :
    Query.bare (q.map (Placed.place f)) = q.bare := by
  rw [bare, bare, Formula.map_map]
  rfl

/-- The token with the text `v`, if it is the value at `s`. -/
def Token.substitute (s : Span) (v : String) (t : Token) : Token :=
  if t.kind = .value ∧ t.span = s then { t with text := v } else t

/-- The comparison with `v` for the argument at `s`. -/
def Placed.substitute (s : Span) (v : String) (p : Placed) : Placed :=
  { p with
    arguments := List.zipWith (fun a span => if span = s then v else a) p.arguments p.argumentSpans }

namespace Grammar
open Query.Reading (Head)

/-- The change `g` of tokens keeps what they are, and takes the tokens of a comparison to those of its
image under `G`. -/
structure Respects (g : Token → Token) (G : Placed → Placed) : Prop where
  kind : ∀ t, (g t).kind = t.kind
  text : ∀ t, t.kind ≠ .value → (g t).text = t.text
  comparison : ∀ (selector operator : Token) (op : Operator) (values : List Token),
    selector.kind = .selector → (∀ v ∈ values, v.kind = .value) →
    G (Head.comparison ⟨selector, op, operator.span⟩ values) =
      Head.comparison ⟨g selector, op, (g operator).span⟩ (values.map g)

theorem Respects.comp {g g' : Token → Token} {G G' : Placed → Placed} (h' : Respects g' G')
    (h : Respects g G) : Respects (g' ∘ g) (G' ∘ G) where
  kind t := (h'.kind (g t)).trans (h.kind t)
  text t ht := by
    have hkind : (g t).kind ≠ .value := by
      rw [h.kind]
      exact ht
    exact (h'.text (g t) hkind).trans (h.text t ht)
  comparison selector operator op values hs hv := by
    have hvalues : ∀ v ∈ values.map g, v.kind = .value := by
      rw [List.forall_mem_map]
      intro v hmem
      rw [h.kind, hv v hmem]
    rw [Function.comp_apply, h.comparison selector operator op values hs hv,
      h'.comparison (g selector) (g operator) op _ ((h.kind selector).trans hs) hvalues,
      List.map_map]
    rfl

theorem respects_place (f : Span → Span) : Respects (Token.place f) (Placed.place f) where
  kind _ := rfl
  text _ _ := rfl
  comparison selector operator op values _ _ := by
    simp [Head.comparison, Placed.place, Token.place, Function.comp_def]

theorem respects_substitute (s : Span) (v : String) :
    Respects (Token.substitute s v) (Placed.substitute s v) where
  kind t := by
    unfold Token.substitute
    split <;> rfl
  text t ht := by
    rw [Token.substitute, if_neg fun h => ht h.1]
  comparison selector operator op values hs hv := by
    have hspan (t : Token) : (t.substitute s v).span = t.span := by
      unfold Token.substitute
      split <;> rfl
    have hselector : selector.substitute s v = selector := by
      rw [Token.substitute, if_neg]
      rw [hs]
      rintro ⟨⟨⟩, -⟩
    have htexts : List.zipWith (fun a span => if span = s then v else a) (values.map (·.text))
        (values.map (·.span)) = (values.map (Token.substitute s v)).map (·.text) := by
      rw [List.zipWith_map, List.zipWith_self, List.map_map]
      apply List.map_congr_left
      intro t ht
      rw [Function.comp_apply, Token.substitute]
      by_cases hts : t.span = s
      · rw [if_pos hts, if_pos ⟨hv t ht, hts⟩]
      · rw [if_neg hts, if_neg fun h => hts h.2]
    have hspans : (values.map (Token.substitute s v)).map (·.span) = values.map (·.span) := by
      rw [List.map_map]
      exact List.map_congr_left fun t _ => hspan t
    rw [Head.comparison, Head.comparison, Placed.substitute, hselector, hspan, htexts, hspans]

/-! ### The changed tokens of a query -/

theorem IsValues.kind {tokens values : List Token} (h : IsValues tokens values) :
    ∀ v ∈ values, v.kind = .value := by
  induction h with
  | one hv => exact List.forall_mem_singleton.2 hv
  | more hv _ _ ih => exact List.forall_mem_cons.2 ⟨hv, ih⟩

theorem IsArguments.kind {arity : Arity} {tokens values : List Token}
    (h : IsArguments arity tokens values) : ∀ v ∈ values, v.kind = .value := by
  cases h with
  | bare hv _ => exact List.forall_mem_singleton.2 hv
  | list _ hv _ _ _ => exact hv.kind

section Map

variable {g : Token → Token} {G : Placed → Placed}

theorem IsValues.map (hg : Respects g G) {tokens values : List Token} (h : IsValues tokens values) :
    IsValues (tokens.map g) (values.map g) := by
  induction h with
  | one hv => exact .one ((hg.kind _).trans hv)
  | more hv hs _ ih => exact .more ((hg.kind _).trans hv) ((hg.kind _).trans hs) ih

theorem IsArguments.map (hg : Respects g G) {arity : Arity} {tokens values : List Token}
    (h : IsArguments arity tokens values) : IsArguments arity (tokens.map g) (values.map g) := by
  cases h with
  | bare hv hp => exact .bare ((hg.kind _).trans hv) hp
  | list ho hv hc hs hp =>
    rw [List.map_append, List.map_cons, List.map_singleton]
    refine .list ((hg.kind _).trans ho) (hv.map hg) ((hg.kind _).trans hc) hs ?_
    intro hpair
    rw [List.length_map, hp hpair]

theorem IsComparison.map (hg : Respects g G) {tokens : List Token} {p : Placed}
    (h : IsComparison tokens p) : IsComparison (tokens.map g) (G p) := by
  obtain @⟨selector, operator, tokens, values, op, hs, hseg, ho, hsp, ha⟩ := h
  have hstext : (g selector).text = selector.text := by
    apply hg.text
    rw [hs]
    decide
  have hotext : (g operator).text = operator.text := by
    apply hg.text
    rw [ho]
    decide
  have himage := hg.comparison selector operator op values hs ha.kind
  rw [Head.comparison] at himage
  rw [List.map_cons, List.map_cons, himage]
  refine .intro ((hg.kind _).trans hs) ?_ ((hg.kind _).trans ho) ?_ (ha.map hg)
  · rw [hstext]
    exact hseg
  · rw [hotext]
    exact hsp

mutual

theorem IsItem.map (hg : Respects g G) {depth : Nat} {tokens : List Token} {q : Query} :
    IsItem depth tokens q → IsItem depth (tokens.map g) (Formula.map G q)
  | .comparison h => .comparison (h.map hg)
  | .group ho ha hc => by
    rw [List.map_append, List.map_cons, List.map_singleton, Formula.map_join]
    exact .group ((hg.kind _).trans ho) (ha.map hg) ((hg.kind _).trans hc)

theorem IsConjunction.map (hg : Respects g G) {depth : Nat} {tokens : List Token}
    {parts : List Query} :
    IsConjunction depth tokens parts →
      IsConjunction depth (tokens.map g) (parts.map (Formula.map G))
  | .one h => .one (h.map hg)
  | .and h hm hc => by
    rw [List.map_append, List.map_cons, List.map_cons]
    exact .and (h.map hg) ((hg.kind _).trans hm) (hc.map hg)

theorem IsAlternatives.map (hg : Respects g G) {depth : Nat} {tokens : List Token}
    {parts : List Query} :
    IsAlternatives depth tokens parts →
      IsAlternatives depth (tokens.map g) (parts.map (Formula.map G))
  | .one h => by
    rw [List.map_singleton, Formula.map_join]
    exact .one (h.map hg)
  | .or h hm ha => by
    rw [List.map_append, List.map_cons, List.map_cons, Formula.map_join]
    exact .or (h.map hg) ((hg.kind _).trans hm) (ha.map hg)

end

/-- The changed tokens of a query write the changed query. -/
theorem IsQuery.map (hg : Respects g G) {tokens : List Token} {q : Query} (h : IsQuery tokens q) :
    IsQuery (tokens.map g) (Formula.map G q) := by
  obtain ⟨depth, parts, ha, hd, rfl⟩ := h
  exact ⟨depth, _, ha.map hg, hd, Formula.map_join ..⟩

end Map

end Grammar
end FilterQuery
