import FilterQuery.Proofs.Formula
import FilterQuery.Query.Reader

/-!
# The grammar of tokens

The grammar that queries are read by, as relations between tokens and what they write, whatever reads
them. A relation on items, conjunctions and alternatives also counts the groups that are open at once.

* `IsValues`, `IsArguments`, `IsComparison` : the tokens of a comparison;
* `IsItem`, `IsConjunction`, `IsAlternatives` : the tokens of an item and of its repetitions;
* `IsQuery` : all the tokens of a query, with at most `maxGroups` groups open at once;
* `Content` : a token that says something of a comparison (`Token.content?`, `Placed.contents`).
-/

set_option autoImplicit false

namespace FilterQuery.Grammar

/-- Values with separators between them. -/
inductive IsValues : List Token → List Token → Prop
  | one {v : Token} : v.kind = .value → IsValues [v] [v]
  | more {v separator : Token} {tokens values : List Token} : v.kind = .value →
      separator.kind = .separator → IsValues tokens values →
      IsValues (v :: separator :: tokens) (v :: values)

/-- The arguments of an operator: a value, or a list of values in parentheses. -/
inductive IsArguments (arity : Arity) : List Token → List Token → Prop
  | bare {v : Token} : v.kind = .value → arity ≠ .pair → IsArguments arity [v] [v]
  | list {opening closing : Token} {tokens values : List Token} : opening.kind = .openGroup →
      IsValues tokens values → closing.kind = .closeGroup → arity ≠ .single →
      (arity = .pair → values.length = 2) →
      IsArguments arity (opening :: tokens ++ [closing]) values

/-- A selector without empty segments, an operator that is known, and arguments. -/
inductive IsComparison : List Token → Placed → Prop
  | intro {selector operator : Token} {tokens values : List Token} {op : Operator} :
      selector.kind = .selector → (∀ segment ∈ selector.text.toList.splitOn '.', segment ≠ []) →
      operator.kind = .operator → op.IsSpelling operator.text →
      IsArguments op.arity tokens values →
      IsComparison (selector :: operator :: tokens)
        ⟨⟨selector.text, op, values.map (·.text)⟩, selector.span, operator.span,
          values.map (·.span)⟩

mutual

/-- The tokens of an item with `depth` groups open at once. -/
inductive IsItem : Nat → List Token → Query → Prop
  | comparison {tokens : List Token} {p : Placed} : IsComparison tokens p →
      IsItem 0 tokens (.atom p)
  | group {depth : Nat} {opening closing : Token} {tokens : List Token} {parts : List Query} :
      opening.kind = .openGroup → IsAlternatives depth tokens parts → closing.kind = .closeGroup →
      IsItem (depth + 1) (opening :: tokens ++ [closing]) (.join .or parts)

/-- The tokens of items joined by "and". -/
inductive IsConjunction : Nat → List Token → List Query → Prop
  | one {depth : Nat} {tokens : List Token} {q : Query} : IsItem depth tokens q →
      IsConjunction depth tokens [q]
  | and {m n : Nat} {mark : Token} {tokens rest : List Token} {q : Query} {parts : List Query} :
      IsItem m tokens q → mark.kind = .and → IsConjunction n rest parts →
      IsConjunction (max m n) (tokens ++ mark :: rest) (q :: parts)

/-- The tokens of conjunctions joined by "or". -/
inductive IsAlternatives : Nat → List Token → List Query → Prop
  | one {depth : Nat} {tokens : List Token} {parts : List Query} :
      IsConjunction depth tokens parts → IsAlternatives depth tokens [.join .and parts]
  | or {m n : Nat} {mark : Token} {tokens rest : List Token} {parts others : List Query} :
      IsConjunction m tokens parts → mark.kind = .or → IsAlternatives n rest others →
      IsAlternatives (max m n) (tokens ++ mark :: rest) (.join .and parts :: others)

end

/-- The tokens of a query, with at most `maxGroups` groups open at once. -/
def IsQuery (tokens : List Token) (q : Query) : Prop :=
  ∃ depth parts, IsAlternatives depth tokens parts ∧ depth ≤ maxGroups ∧ q = .join .or parts

/-! ### The repetitions grow at the end -/

theorem IsValues.snoc {tokens values : List Token} {separator v : Token}
    (h : IsValues tokens values) (hs : separator.kind = .separator) (hv : v.kind = .value) :
    IsValues (tokens ++ [separator, v]) (values ++ [v]) := by
  induction h with
  | one hw => exact .more hw hs (.one hv)
  | more hw hs' _ ih => exact .more hw hs' ih

theorem IsConjunction.snoc {m n : Nat} {tokens rest : List Token} {parts : List Query} {q : Query}
    {mark : Token} :
    IsConjunction m tokens parts → mark.kind = .and → IsItem n rest q →
      IsConjunction (max m n) (tokens ++ mark :: rest) (parts ++ [q])
  | .one h, hm, hq => .and h hm (.one hq)
  | .and h hm' hc, hm, hq => by
    have := IsConjunction.and h hm' (hc.snoc hm hq)
    rwa [← Nat.max_assoc, ← List.cons_append, ← List.append_assoc] at this

theorem IsAlternatives.snoc {m n : Nat} {tokens rest : List Token} {parts items : List Query}
    {mark : Token} :
    IsAlternatives m tokens parts → mark.kind = .or → IsConjunction n rest items →
      IsAlternatives (max m n) (tokens ++ mark :: rest) (parts ++ [.join .and items])
  | .one h, hm, hc => .or h hm (.one hc)
  | .or h hm' ha, hm, hc => by
    have := IsAlternatives.or h hm' (ha.snoc hm hc)
    rwa [← Nat.max_assoc, ← List.cons_append, ← List.append_assoc] at this

theorem IsConjunction.ne_nil {depth : Nat} {tokens : List Token} {parts : List Query} :
    IsConjunction depth tokens parts → parts ≠ []
  | .one _ | .and .. => List.cons_ne_nil _ _

theorem IsAlternatives.ne_nil {depth : Nat} {tokens : List Token} {parts : List Query} :
    IsAlternatives depth tokens parts → parts ≠ []
  | .one _ | .or .. => List.cons_ne_nil _ _

/-! ### What tokens say of comparisons -/

/-- What a selector, an operator or a value says, and where it stands. An operator with no known
spelling says nothing, but stands somewhere. -/
inductive Content where
  | selector (text : String) (span : Span)
  | operator (op : Option Operator) (span : Span)
  | value (text : String) (span : Span)

/-- What a token says; parentheses, connectives and separators say nothing. -/
def content? (t : Token) : Option Content :=
  match t.kind with
  | .selector => some (.selector t.text t.span)
  | .operator => some (.operator (Operator.ofSpelling? t.text) t.span)
  | .value => some (.value t.text t.span)
  | _ => none

/-- What a comparison says, from left to right. -/
def contents (p : Placed) : List Content :=
  .selector p.selector p.selectorSpan :: .operator (some p.operator) p.operatorSpan ::
    List.zipWith .value p.arguments p.argumentSpans

theorem content?_eq_none {t : Token} {kind : TokenKind} (ht : t.kind = kind)
    (hk : kind ∉ [.selector, .operator, .value]) : content? t = none := by
  rw [content?, ht]
  cases kind <;> first | rfl | simp at hk

theorem content?_value {v : Token} (h : v.kind = .value) :
    content? v = some (.value v.text v.span) := by
  rw [content?, h]

theorem content?_eq_selector {t : Token} {content : String} {span : Span}
    (h : content? t = some (.selector content span)) :
    t.kind = .selector ∧ t.text = content ∧ t.span = span := by
  unfold content? at h
  split at h
  · next hk =>
    cases h
    exact ⟨hk, rfl, rfl⟩
  all_goals cases h

theorem content?_eq_operator {t : Token} {op : Operator} {span : Span}
    (h : content? t = some (.operator (some op) span)) :
    t.kind = .operator ∧ op.IsSpelling t.text ∧ t.span = span := by
  unfold content? at h
  split at h
  · cases h
  · next hk =>
    obtain ⟨hop, rfl⟩ := Content.operator.inj (Option.some.inj h)
    exact ⟨hk, Operator.ofSpelling?_eq_some_iff.1 hop, rfl⟩
  all_goals cases h

theorem content?_eq_value {t : Token} {content : String} {span : Span}
    (h : content? t = some (.value content span)) :
    t.kind = .value ∧ t.text = content ∧ t.span = span := by
  unfold content? at h
  split at h
  · cases h
  · cases h
  · next hk =>
    cases h
    exact ⟨hk, rfl, rfl⟩
  · cases h

theorem IsValues.contents {tokens values : List Token} (h : IsValues tokens values) :
    tokens.filterMap content? = values.map fun v => Content.value v.text v.span := by
  induction h with
  | one hv => simp [content?_value hv]
  | more hv hs _ ih => simp [content?_value hv, content?_eq_none hs, ih]

theorem IsArguments.contents {arity : Arity} {tokens values : List Token}
    (h : IsArguments arity tokens values) :
    tokens.filterMap content? = values.map fun v => Content.value v.text v.span := by
  cases h with
  | bare hv _ => simp [content?_value hv]
  | list ho hv hc _ _ =>
    simp [content?_eq_none ho, content?_eq_none hc, List.filterMap_append, hv.contents]

theorem IsComparison.contents {tokens : List Token} {p : Placed} (h : IsComparison tokens p) :
    Grammar.contents p = tokens.filterMap content? := by
  obtain ⟨hs, _, ho, hsp, ha⟩ := h
  rw [List.filterMap_cons, List.filterMap_cons, content?, content?, hs, ho, ha.contents,
    Operator.ofSpelling?_eq_some_iff.2 hsp]
  simp [Grammar.contents, List.zipWith_map, List.zipWith_self]

theorem IsComparison.length_spans {tokens : List Token} {p : Placed} (h : IsComparison tokens p) :
    p.argumentSpans.length = p.arguments.length := by
  obtain ⟨_, _, _, _, _⟩ := h
  rw [List.length_map, List.length_map]

mutual

theorem IsItem.contents {depth : Nat} {tokens : List Token} {q : Query} :
    IsItem depth tokens q → q.atoms.flatMap Grammar.contents = tokens.filterMap content?
  | .comparison h => by
    rw [Formula.atoms_atom, List.flatMap_singleton, h.contents]
  | .group ho ha hc => by
    rw [Formula.atoms_join, ha.contents]
    simp [content?_eq_none ho, content?_eq_none hc, List.filterMap_append]

theorem IsConjunction.contents {depth : Nat} {tokens : List Token} {parts : List Query} :
    IsConjunction depth tokens parts →
      (parts.flatMap Formula.atoms).flatMap Grammar.contents = tokens.filterMap content?
  | .one h => by
    rw [List.flatMap_singleton, h.contents]
  | .and h hm hc => by
    rw [List.flatMap_cons, List.flatMap_append, h.contents, hc.contents]
    simp [content?_eq_none hm, List.filterMap_append]

theorem IsAlternatives.contents {depth : Nat} {tokens : List Token} {parts : List Query} :
    IsAlternatives depth tokens parts →
      (parts.flatMap Formula.atoms).flatMap Grammar.contents = tokens.filterMap content?
  | .one h => by
    rw [List.flatMap_singleton, Formula.atoms_join, h.contents]
  | .or h hm ha => by
    rw [List.flatMap_cons, List.flatMap_append, Formula.atoms_join, h.contents, ha.contents]
    simp [content?_eq_none hm, List.filterMap_append]

end

/-! ### What holds of every query -/

/-- `P` holds of single comparisons and passes from parts to what they are joined to. -/
structure IsInductive (P : Query → Prop) : Prop where
  atom : ∀ {tokens p}, IsComparison tokens p → P (.atom p)
  join : ∀ {c parts}, parts ≠ [] → (∀ part ∈ parts, P part) → P (.join c parts)

mutual

theorem IsItem.induct {P : Query → Prop} (hP : IsInductive P) {depth : Nat} {tokens : List Token}
    {q : Query} : IsItem depth tokens q → P q
  | .comparison h => hP.atom h
  | .group _ ha _ => hP.join ha.ne_nil (ha.induct hP)

theorem IsConjunction.induct {P : Query → Prop} (hP : IsInductive P) {depth : Nat}
    {tokens : List Token} {parts : List Query} :
    IsConjunction depth tokens parts → ∀ part ∈ parts, P part
  | .one h => List.forall_mem_singleton.2 (h.induct hP)
  | .and h _ hc => List.forall_mem_cons.2 ⟨h.induct hP, hc.induct hP⟩

theorem IsAlternatives.induct {P : Query → Prop} (hP : IsInductive P) {depth : Nat}
    {tokens : List Token} {parts : List Query} :
    IsAlternatives depth tokens parts → ∀ part ∈ parts, P part
  | .one h => List.forall_mem_singleton.2 (hP.join h.ne_nil (h.induct hP))
  | .or h _ ha => List.forall_mem_cons.2 ⟨hP.join h.ne_nil (h.induct hP), ha.induct hP⟩

end

theorem IsQuery.induct {P : Query → Prop} (hP : IsInductive P) {tokens : List Token} {q : Query}
    (h : IsQuery tokens q) : P q := by
  obtain ⟨_, parts, ha, _, rfl⟩ := h
  exact hP.join ha.ne_nil (ha.induct hP)

theorem isInductive_forall_atoms {R : Placed → Prop}
    (hR : ∀ {tokens p}, IsComparison tokens p → R p) :
    IsInductive fun q => ∀ p ∈ q.atoms, R p where
  atom h := by
    rw [Formula.atoms_atom, List.forall_mem_singleton]
    exact hR h
  join _ hp := by
    rw [Formula.atoms_join]
    intro p hm
    obtain ⟨part, hpart, hm⟩ := List.mem_flatMap.1 hm
    exact hp part hpart p hm

theorem isInductive_isBranching : IsInductive Formula.IsBranching where
  atom _ := Formula.isBranching_atom _
  join hne hp := Formula.isBranching_join _ hne hp

theorem IsQuery.isBranching {tokens : List Token} {q : Query} (h : IsQuery tokens q) :
    q.IsBranching := h.induct isInductive_isBranching

theorem IsQuery.length_spans {tokens : List Token} {q : Query} (h : IsQuery tokens q) :
    ∀ p ∈ q.atoms, p.argumentSpans.length = p.arguments.length :=
  h.induct (isInductive_forall_atoms IsComparison.length_spans)

theorem IsQuery.contents {tokens : List Token} {q : Query} (h : IsQuery tokens q) :
    q.atoms.flatMap Grammar.contents = tokens.filterMap content? := by
  obtain ⟨_, parts, ha, _, rfl⟩ := h
  rw [Formula.atoms_join, ha.contents]

end FilterQuery.Grammar
