import FilterQuery.Proofs.Grammar.Derivation
import FilterQuery.Proofs.Grammar.Tokens

/-!
# What lexemes are in a derivation

What a lexeme is depends on those before it. In a derivation it always is what its place in the tree
says.

* `Reads c roles c'` : in the context `c` each lexeme is read for what `roles` says it is, up to the
  context `c'`;
* `Item.reads` : the lexemes of an item are read for what the derivation says they are;
* `Item.isItem`, `IsItem.exists_item` : their tokens are an item of the grammar of tokens, and the
  tokens of such an item come from the lexemes of a derivation.
-/

set_option autoImplicit false

namespace FilterQuery.Grammar

/-! ### Roles and contexts -/

/-- Each lexeme is read for what it is said to be. -/
inductive Reads : Context → List Role → Context → Prop
  | nil {c : Context} : Reads c [] c
  | cons {c mid c' : Context} {kind : TokenKind} {l : Lexeme} {roles : List Role} :
      c.read l = (kind, mid) → Reads mid roles c' → Reads c ((kind, l) :: roles) c'

theorem Reads.append {c mid c' : Context} {roles rest : List Role} (h : Reads c roles mid)
    (hr : Reads mid rest c') : Reads c (roles ++ rest) c' := by
  induction h with
  | nil => exact hr
  | cons hread _ ih => exact .cons hread (ih hr)

theorem Reads.of_append {c c' : Context} {roles rest : List Role} (h : Reads c (roles ++ rest) c') :
    ∃ mid, Reads c roles mid ∧ Reads mid rest c' := by
  induction roles generalizing c with
  | nil => exact ⟨c, .nil, h⟩
  | cons role roles ih =>
    cases h with
    | cons hread h =>
      obtain ⟨mid, hm, hr⟩ := ih h
      exact ⟨mid, .cons hread hm, hr⟩

/-- What a token says. -/
def tokenSense (t : Token) : TokenKind × String := (t.kind, t.text)

/-- What the token of a lexeme says. -/
def roleSense (r : Role) : TokenKind × String := (r.1, String.ofList r.2.content)

theorem Reads.classify {c c' : Context} {roles : List Role} (h : Reads c roles c')
    {placed : List (Nat × Lexeme)} (hp : placed.map Prod.snd = roles.map Prod.snd) :
    (Token.classify c placed).map tokenSense = roles.map roleSense := by
  induction h generalizing placed with
  | nil =>
    rw [List.map_eq_nil_iff.1 hp]
    rfl
  | cons hread _ ih =>
    obtain ⟨⟨position, l⟩, rest, rfl, rfl, hrest⟩ := List.map_eq_cons_iff.1 hp
    rw [Token.classify, hread, List.map_cons, List.map_cons, ih hrest]
    rfl

theorem exists_reads (c : Context) (placed : List (Nat × Lexeme)) :
    ∃ roles c', Reads c roles c' ∧ roles.map Prod.snd = placed.map Prod.snd := by
  induction placed generalizing c with
  | nil => exact ⟨[], c, .nil, rfl⟩
  | cons p placed ih =>
    obtain ⟨roles, c', h, hp⟩ := ih (c.read p.2).2
    exact ⟨((c.read p.2).1, p.2) :: roles, c', .cons rfl h, by rw [List.map_cons, hp]; rfl⟩

/-! ### The lexemes of a derivation are what the derivation says -/

theorem Operand.read (o : Operand) :
    Context.arguments.read o.lexeme = (.value, .expression) ∧
      Context.values.read o.lexeme = (.value, .values) := by
  cases o <;> exact ⟨rfl, rfl⟩

theorem Arguments.reads_valueRoles : ∀ (first : Operand) (others : List Operand),
    Reads .values (valueRoles first others) .values
  | v, [] => .cons v.read.2 .nil
  | v, w :: others => .cons v.read.2 (.cons rfl (reads_valueRoles w others))

theorem Arguments.reads (a : Arguments) : Reads .arguments a.roles .expression := by
  cases a with
  | bare v => exact .cons v.read.1 .nil
  | list first others =>
    have hvalues := reads_valueRoles first others
    exact .cons rfl (hvalues.append (.cons rfl .nil))

theorem Clause.reads (c : Clause) : Reads .expression c.roles .expression :=
  .cons rfl (.cons rfl c.arguments.reads)

mutual

theorem Item.reads : ∀ d : Item, Reads .expression d.roles .expression
  | .comparison c => by
    rw [Item.roles]
    exact c.reads
  | .group parts => by
    rw [Item.roles]
    exact .cons rfl (parts.reads.append (.cons rfl .nil))

theorem Conjunction.reads : ∀ d : Conjunction, Reads .expression d.roles .expression
  | .one item => by
    rw [Conjunction.roles]
    exact item.reads
  | .and item rest => by
    rw [Conjunction.roles]
    exact item.reads.append (.cons rfl rest.reads)

theorem Alternatives.reads : ∀ d : Alternatives, Reads .expression d.roles .expression
  | .one items => by
    rw [Alternatives.roles]
    exact items.reads
  | .or items rest => by
    rw [Alternatives.roles]
    exact items.reads.append (.cons rfl rest.reads)

end

/-! ### Derivations give tokens of the grammar -/

theorem bare_join (c : Connective) (qs : List Query) :
    Query.bare (.join c qs) = .join c (qs.map Query.bare) := Formula.map_join ..

theorem map_sense_eq_cons {tokens : List Token} {r : Role} {roles : List Role}
    (h : tokens.map tokenSense = (r :: roles).map roleSense) :
    ∃ t rest, tokens = t :: rest ∧ t.kind = r.1 ∧ t.text = String.ofList r.2.content ∧
      rest.map tokenSense = roles.map roleSense := by
  obtain ⟨t, rest, rfl, ht, hrest⟩ := List.map_eq_cons_iff.1 h
  obtain ⟨hk, hx⟩ := Prod.mk.inj ht
  exact ⟨t, rest, rfl, hk, hx, hrest⟩

theorem map_sense_eq_append {tokens : List Token} {roles others : List Role}
    (h : tokens.map tokenSense = (roles ++ others).map roleSense) :
    ∃ us vs, tokens = us ++ vs ∧ us.map tokenSense = roles.map roleSense ∧
      vs.map tokenSense = others.map roleSense := by
  rw [List.map_append] at h
  obtain ⟨us, vs, rfl, hu, hv⟩ := List.map_eq_append_iff.1 h
  exact ⟨us, vs, rfl, hu, hv⟩

theorem map_sense_eq_nil {tokens : List Token}
    (h : tokens.map tokenSense = ([] : List Role).map roleSense) : tokens = [] :=
  List.map_eq_nil_iff.1 h

theorem Arguments.isValues : ∀ {first : Operand} {others : List Operand} {tokens : List Token},
    tokens.map tokenSense = (valueRoles first others).map roleSense →
      ∃ values, IsValues tokens values ∧
        values.map (·.text) = (first :: others).map Operand.content
  | v, [], tokens, h => by
    obtain ⟨t, rest, rfl, hk, hx, h⟩ := map_sense_eq_cons h
    rw [map_sense_eq_nil h]
    exact ⟨[t], .one hk, by rw [List.map_singleton, hx]; rfl⟩
  | v, w :: others, tokens, h => by
    obtain ⟨t, rest, rfl, hk, hx, h⟩ := map_sense_eq_cons h
    obtain ⟨separator, rest, rfl, hs, -, h⟩ := map_sense_eq_cons h
    obtain ⟨values, hv, hc⟩ := isValues h
    exact ⟨t :: values, .more hk hs hv, by rw [List.map_cons, hx, hc]; rfl⟩

theorem Arguments.isArguments {a : Arguments} {arity : Arity} (ha : a.Suits arity)
    {tokens : List Token} (h : tokens.map tokenSense = a.roles.map roleSense) :
    ∃ values, IsArguments arity tokens values ∧
      values.map (·.text) = a.operands.map Operand.content := by
  cases a with
  | bare v =>
    obtain ⟨t, rest, rfl, hk, hx, h⟩ := map_sense_eq_cons h
    rw [map_sense_eq_nil h]
    exact ⟨[t], .bare hk ha, by rw [List.map_singleton, hx]; rfl⟩
  | list first others =>
    obtain ⟨opening, rest, rfl, ho, -, h⟩ := map_sense_eq_cons h
    obtain ⟨inner, rest, rfl, hi, h⟩ := map_sense_eq_append h
    obtain ⟨closing, rest, rfl, hc, -, h⟩ := map_sense_eq_cons h
    obtain ⟨values, hv, hx⟩ := isValues hi
    have hpair : arity = .pair → values.length = 2 := by
      intro hp
      have hlen := congrArg List.length hx
      rw [List.length_map, List.length_map, List.length_cons, ha.2 hp] at hlen
      exact hlen
    rw [map_sense_eq_nil h]
    exact ⟨values, .list ho hv hc ha.1 hpair, hx⟩

theorem Clause.isComparison {c : Clause} {tokens : List Token}
    (h : tokens.map tokenSense = c.roles.map roleSense) :
    ∃ p, IsComparison tokens p ∧ p.toComparison = c.comparison := by
  obtain ⟨selector, rest, rfl, hs, hx, h⟩ := map_sense_eq_cons h
  obtain ⟨operator, rest, rfl, ho, hy, h⟩ := map_sense_eq_cons h
  obtain ⟨values, ha, hv⟩ := Arguments.isArguments c.suited h
  change selector.text = String.ofList c.selector at hx
  change operator.text = String.ofList c.symbol at hy
  have hnamed : ∀ segment ∈ selector.text.toList.splitOn '.', segment ≠ [] := by
    rw [hx, String.toList_ofList]
    exact c.named
  have hspelled : c.operator.IsSpelling operator.text := by
    rw [hy]
    exact c.spelled
  refine ⟨_, .intro hs hnamed ho hspelled ha, ?_⟩
  rw [comparison, hx, hv]

mutual

theorem Item.isItem : ∀ {d : Item} {tokens : List Token},
    tokens.map tokenSense = d.roles.map roleSense →
      ∃ q, IsItem d.depth tokens q ∧ Query.bare q = d.formula
  | .comparison c, tokens, h => by
    rw [Item.roles] at h
    obtain ⟨p, hp, hc⟩ := Clause.isComparison h
    rw [Item.depth, Item.formula, ← hc]
    exact ⟨_, .comparison hp, rfl⟩
  | .group parts, tokens, h => by
    rw [Item.roles, List.cons_append] at h
    obtain ⟨opening, rest, rfl, ho, -, h⟩ := map_sense_eq_cons h
    obtain ⟨inner, rest, rfl, hi, h⟩ := map_sense_eq_append h
    obtain ⟨closing, rest, rfl, hc, -, h⟩ := map_sense_eq_cons h
    obtain ⟨qs, ha, hq⟩ := Alternatives.isAlternatives hi
    rw [map_sense_eq_nil h, Item.depth, Item.formula, ← hq]
    exact ⟨_, .group ho ha hc, bare_join ..⟩

theorem Conjunction.isConjunction : ∀ {d : Conjunction} {tokens : List Token},
    tokens.map tokenSense = d.roles.map roleSense →
      ∃ qs, IsConjunction d.depth tokens qs ∧ qs.map Query.bare = d.formulas
  | .one item, tokens, h => by
    rw [Conjunction.roles] at h
    obtain ⟨q, hi, hq⟩ := Item.isItem h
    rw [Conjunction.depth, Conjunction.formulas, ← hq]
    exact ⟨[q], .one hi, rfl⟩
  | .and item rest, tokens, h => by
    rw [Conjunction.roles] at h
    obtain ⟨us, vs, rfl, hu, h⟩ := map_sense_eq_append h
    obtain ⟨mark, vs, rfl, hm, -, hv⟩ := map_sense_eq_cons h
    obtain ⟨q, hi, hq⟩ := Item.isItem hu
    obtain ⟨qs, hc, hqs⟩ := Conjunction.isConjunction hv
    rw [Conjunction.depth, Conjunction.formulas, ← hq, ← hqs]
    exact ⟨q :: qs, .and hi hm hc, rfl⟩

theorem Alternatives.isAlternatives : ∀ {d : Alternatives} {tokens : List Token},
    tokens.map tokenSense = d.roles.map roleSense →
      ∃ qs, IsAlternatives d.depth tokens qs ∧ qs.map Query.bare = d.formulas
  | .one items, tokens, h => by
    rw [Alternatives.roles] at h
    obtain ⟨qs, hc, hq⟩ := Conjunction.isConjunction h
    rw [Alternatives.depth, Alternatives.formulas, ← hq]
    exact ⟨_, .one hc, by rw [List.map_singleton, bare_join]⟩
  | .or items rest, tokens, h => by
    rw [Alternatives.roles] at h
    obtain ⟨us, vs, rfl, hu, h⟩ := map_sense_eq_append h
    obtain ⟨mark, vs, rfl, hm, -, hv⟩ := map_sense_eq_cons h
    obtain ⟨qs, hc, hqs⟩ := Conjunction.isConjunction hu
    obtain ⟨qs', ha, hqs'⟩ := Alternatives.isAlternatives hv
    rw [Alternatives.depth, Alternatives.formulas, ← hqs, ← hqs']
    exact ⟨_, .or hc hm ha, by rw [List.map_cons, bare_join]⟩

end

/-! ### Tokens of the grammar come from derivations -/

/-- What a lexeme is, and what it leaves to expect, by the kind of its token. -/
def Explains (c : Context) (l : Lexeme) (mid : Context) : TokenKind → Prop
  | .selector => ∃ text, l = .word text ∧ mid = .expression
  | .operator => ∃ symbol, l = .operator symbol ∧ mid = .arguments
  | .value => ∃ o : Operand, l = o.lexeme ∧
    (c = .arguments → mid = .expression) ∧ (c = .values → mid = .values)
  | .openGroup => l = .openParen ∧
    (c = .arguments → mid = .values) ∧ (c = .expression → mid = .expression)
  | .closeGroup => l = .closeParen ∧ mid = .expression
  | .and => l = .semicolon ∧ mid = .expression
  | .or => l = .comma ∧ mid = .expression
  | .separator => l = .comma ∧ mid = .values

theorem explains_of_read {c mid : Context} {l : Lexeme} {kind : TokenKind}
    (h : c.read l = (kind, mid)) : Explains c l mid kind := by
  have hword (text : List Char) : Lexeme.word text = (Operand.word text).lexeme := rfl
  have hquoted (mark : Char) (body : List Char) :
    Lexeme.quoted mark body = (Operand.quoted mark body).lexeme := rfl
  cases c <;> cases l <;> cases h <;>
    simp only [Explains, reduceCtorEq, forall_const, and_true, and_self, false_imp_iff,
      Lexeme.word.injEq, Lexeme.operator.injEq, exists_eq']
  all_goals first | exact ⟨_, hword _⟩ | exact ⟨_, hquoted _ _⟩

theorem Reads.uncons {c c' : Context} {roles : List Role} {t : Token} {tokens : List Token}
    {kind : TokenKind} (h : Reads c roles c')
    (ht : (t :: tokens).map tokenSense = roles.map roleSense) (hk : t.kind = kind) :
    ∃ l mid rest, roles = (kind, l) :: rest ∧ t.text = String.ofList l.content ∧
      Explains c l mid kind ∧ Reads mid rest c' ∧
      tokens.map tokenSense = rest.map roleSense := by
  obtain ⟨⟨k, l⟩, rest, rfl, hr, hrest⟩ := List.map_eq_cons_iff.1 ht.symm
  obtain ⟨rfl, hx⟩ := Prod.mk.inj hr
  subst hk
  cases h with
  | cons hread h => exact ⟨l, _, rest, rfl, hx.symm, explains_of_read hread, h, hrest.symm⟩

theorem Reads.unappend {c c' : Context} {roles : List Role} {tokens others : List Token}
    (h : Reads c roles c') (ht : (tokens ++ others).map tokenSense = roles.map roleSense) :
    ∃ us vs mid, roles = us ++ vs ∧ Reads c us mid ∧ Reads mid vs c' ∧
      tokens.map tokenSense = us.map roleSense ∧ others.map tokenSense = vs.map roleSense := by
  rw [List.map_append] at ht
  obtain ⟨us, vs, rfl, hu, hv⟩ := List.map_eq_append_iff.1 ht.symm
  obtain ⟨mid, h, h'⟩ := h.of_append
  exact ⟨us, vs, mid, rfl, h, h', hu.symm, hv.symm⟩

theorem Reads.of_nil {c c' : Context} {roles : List Role} (h : Reads c roles c')
    (ht : ([] : List Token).map tokenSense = roles.map roleSense) : roles = [] ∧ c' = c := by
  have := List.map_eq_nil_iff.1 ht.symm
  subst this
  cases h
  exact ⟨rfl, rfl⟩

theorem IsValues.exists_operands {tokens values : List Token} (hv : IsValues tokens values) :
    ∀ {roles : List Role} {c' : Context}, Reads .values roles c' →
      tokens.map tokenSense = roles.map roleSense →
      c' = .values ∧ ∃ first others, roles = Arguments.valueRoles first others ∧
        values.map (·.text) = (first :: others).map Operand.content := by
  induction hv with
  | one hk =>
    intro roles c' h ht
    obtain ⟨_, mid, rest, rfl, hx, ⟨o, rfl, -, hmid⟩, h, ht⟩ := h.uncons ht hk
    obtain ⟨rfl, rfl⟩ := h.of_nil ht
    exact ⟨hmid rfl, o, [], rfl, by rw [List.map_singleton, hx]; rfl⟩
  | more hk hs _ ih =>
    intro roles c' h ht
    obtain ⟨_, mid, rest, rfl, hx, ⟨o, rfl, -, hmid⟩, h, ht⟩ := h.uncons ht hk
    obtain ⟨_, _, rest, rfl, -, ⟨rfl, rfl⟩, h, ht⟩ := h.uncons ht hs
    obtain ⟨hc, first, others, rfl, hv⟩ := ih h ht
    exact ⟨hc, o, first :: others, rfl, by rw [List.map_cons, hx, hv]; rfl⟩

theorem IsArguments.exists_arguments {arity : Arity} {tokens values : List Token}
    (ha : IsArguments arity tokens values) {roles : List Role} {c' : Context}
    (h : Reads .arguments roles c') (ht : tokens.map tokenSense = roles.map roleSense) :
    c' = .expression ∧ ∃ a : Arguments, a.Suits arity ∧ roles = a.roles ∧
      values.map (·.text) = a.operands.map Operand.content := by
  cases ha with
  | bare hk hp =>
    obtain ⟨_, mid, rest, rfl, hx, ⟨o, rfl, hmid, -⟩, h, ht⟩ := h.uncons ht hk
    obtain ⟨rfl, rfl⟩ := h.of_nil ht
    exact ⟨hmid rfl, .bare o, hp, rfl, by rw [List.map_singleton, hx]; rfl⟩
  | list ho hv hc hs hp =>
    obtain ⟨_, mid, rest, rfl, -, ⟨rfl, hmid, -⟩, h, ht⟩ := h.uncons ht ho
    obtain rfl := hmid rfl
    obtain ⟨inner, rest, mid, rfl, hi, h', hti, ht'⟩ := h.unappend ht
    obtain ⟨rfl, first, others, rfl, hx⟩ := hv.exists_operands hi hti
    obtain ⟨_, _, rest, rfl, -, ⟨rfl, rfl⟩, h', ht'⟩ := h'.uncons ht' hc
    obtain ⟨rfl, rfl⟩ := h'.of_nil ht'
    have hpair : arity = .pair → others.length = 1 := by
      intro harity
      have hlen := congrArg List.length hx
      rw [List.length_map, List.length_map, hp harity, List.length_cons] at hlen
      omega
    exact ⟨rfl, .list first others, ⟨hs, hpair⟩, rfl, hx⟩

theorem IsComparison.exists_clause {tokens : List Token} {p : Placed} (hp : IsComparison tokens p)
    {roles : List Role} {c' : Context} (h : Reads .expression roles c')
    (ht : tokens.map tokenSense = roles.map roleSense) :
    c' = .expression ∧ ∃ c : Clause, roles = c.roles ∧ c.comparison = p.toComparison := by
  obtain ⟨hs, hseg, ho, hsp, ha⟩ := hp
  obtain ⟨_, _, rest, rfl, hx, ⟨selector, rfl, rfl⟩, h, ht⟩ := h.uncons ht hs
  obtain ⟨_, _, rest, rfl, hy, ⟨symbol, rfl, rfl⟩, h, ht⟩ := h.uncons ht ho
  obtain ⟨hc, a, hsuits, rfl, hv⟩ := ha.exists_arguments h ht
  change _ = String.ofList selector at hx
  change _ = String.ofList symbol at hy
  rw [hx, String.toList_ofList] at hseg
  rw [hy] at hsp
  refine ⟨hc, ⟨selector, _, symbol, a, hseg, hsp, hsuits⟩, rfl, ?_⟩
  rw [Clause.comparison, hx, hv]

mutual

theorem IsItem.exists_item : ∀ {n : Nat} {tokens : List Token} {q : Query}, IsItem n tokens q →
    ∀ {roles : List Role} {c' : Context}, Reads .expression roles c' →
      tokens.map tokenSense = roles.map roleSense →
      c' = .expression ∧ ∃ d : Item, roles = d.roles ∧ d.depth = n ∧ d.formula = q.bare
  | _, _, _, .comparison hp, roles, c', h, ht => by
    obtain ⟨hc, c, rfl, hp⟩ := hp.exists_clause h ht
    refine ⟨hc, .comparison c, by rw [Item.roles], by rw [Item.depth], ?_⟩
    rw [Item.formula, hp]
    rfl
  | _, _, _, .group ho ha hc, roles, c', h, ht => by
    obtain ⟨_, mid, rest, rfl, -, ⟨rfl, -, hmid⟩, h, ht⟩ := h.uncons ht ho
    obtain rfl := hmid rfl
    obtain ⟨inner, rest, mid, rfl, hi, h', hti, ht'⟩ := h.unappend ht
    obtain ⟨rfl, parts, rfl, rfl, hq⟩ := IsAlternatives.exists_alternatives ha hi hti
    obtain ⟨_, _, rest, rfl, -, ⟨rfl, rfl⟩, h', ht'⟩ := h'.uncons ht' hc
    obtain ⟨rfl, rfl⟩ := h'.of_nil ht'
    refine ⟨rfl, .group parts, by rw [Item.roles, List.cons_append], by rw [Item.depth], ?_⟩
    rw [Item.formula, hq, bare_join]

theorem IsConjunction.exists_conjunction : ∀ {n : Nat} {tokens : List Token} {qs : List Query},
    IsConjunction n tokens qs → ∀ {roles : List Role} {c' : Context}, Reads .expression roles c' →
      tokens.map tokenSense = roles.map roleSense →
      c' = .expression ∧
        ∃ d : Conjunction, roles = d.roles ∧ d.depth = n ∧ d.formulas = qs.map Query.bare
  | _, _, _, .one hi, roles, c', h, ht => by
    obtain ⟨hc, d, rfl, rfl, hq⟩ := IsItem.exists_item hi h ht
    refine ⟨hc, .one d, by rw [Conjunction.roles], by rw [Conjunction.depth], ?_⟩
    rw [Conjunction.formulas, hq, List.map_singleton]
  | _, _, _, .and hi hm hc, roles, c', h, ht => by
    obtain ⟨us, vs, mid, rfl, hu, h', htu, ht'⟩ := h.unappend ht
    obtain ⟨rfl, d, rfl, rfl, hq⟩ := IsItem.exists_item hi hu htu
    obtain ⟨_, _, rest, rfl, -, ⟨rfl, rfl⟩, h', ht'⟩ := h'.uncons ht' hm
    obtain ⟨hc', d', rfl, rfl, hqs⟩ := IsConjunction.exists_conjunction hc h' ht'
    refine ⟨hc', .and d d', by rw [Conjunction.roles], by rw [Conjunction.depth], ?_⟩
    rw [Conjunction.formulas, hq, hqs, List.map_cons]

theorem IsAlternatives.exists_alternatives : ∀ {n : Nat} {tokens : List Token} {qs : List Query},
    IsAlternatives n tokens qs → ∀ {roles : List Role} {c' : Context}, Reads .expression roles c' →
      tokens.map tokenSense = roles.map roleSense →
      c' = .expression ∧
        ∃ d : Alternatives, roles = d.roles ∧ d.depth = n ∧ d.formulas = qs.map Query.bare
  | _, _, _, .one hc, roles, c', h, ht => by
    obtain ⟨hc', d, rfl, rfl, hq⟩ := IsConjunction.exists_conjunction hc h ht
    refine ⟨hc', .one d, by rw [Alternatives.roles], by rw [Alternatives.depth], ?_⟩
    rw [Alternatives.formulas, hq, List.map_singleton, bare_join]
  | _, _, _, .or hc hm ha, roles, c', h, ht => by
    obtain ⟨us, vs, mid, rfl, hu, h', htu, ht'⟩ := h.unappend ht
    obtain ⟨rfl, d, rfl, rfl, hq⟩ := IsConjunction.exists_conjunction hc hu htu
    obtain ⟨_, _, rest, rfl, -, ⟨rfl, rfl⟩, h', ht'⟩ := h'.uncons ht' hm
    obtain ⟨hc', d', rfl, rfl, hqs⟩ := IsAlternatives.exists_alternatives ha h' ht'
    refine ⟨hc', .or d d', by rw [Alternatives.roles], by rw [Alternatives.depth], ?_⟩
    rw [Alternatives.formulas, hq, hqs, List.map_cons, bare_join]

end

end FilterQuery.Grammar
