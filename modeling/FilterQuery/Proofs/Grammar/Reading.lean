import FilterQuery.Proofs.Grammar.Steps

/-!
# Reading tokens of the grammar

Reading goes token by token and keeps the open groups on a stack.

* `Runs`, `Fails` : the tokens lead from one state to another, or to an error, and `Runs.preserves`,
  from steps to runs;
* `IsItem.runs` : the tokens of an item lead from a place where an item must come to the place after
  it, with the item added to the group at hand, if the groups that are open leave room for its own;
* `IsItem.fails` : if they do not, reading fails at the parenthesis that opens one group too many.
-/

set_option autoImplicit false

namespace FilterQuery.Query.Reading
open Grammar

/-! ### Runs -/

/-- The tokens lead from one state to another. -/
def Runs (s : State) (tokens : List Token) (s' : State) : Prop := tokens.foldlM step s = .ok s'

/-- One of the tokens cannot be read. -/
def Fails (s : State) (tokens : List Token) (e : SyntaxError) : Prop :=
  tokens.foldlM step s = .error e

theorem Runs.nil (s : State) : Runs s [] s := rfl

theorem runs_cons {s s' : State} {t : Token} {tokens : List Token} :
    Runs s (t :: tokens) s' ↔ ∃ mid, step s t = .ok mid ∧ Runs mid tokens s' := by
  unfold Runs
  rw [List.foldlM_cons]
  exact bind_eq_ok

theorem Runs.cons {s mid s' : State} {t : Token} {tokens : List Token}
    (h : Steps s.level s.outer t s.mode (.ok mid)) (hr : Runs mid tokens s') :
    Runs s (t :: tokens) s' := runs_cons.2 ⟨mid, h.step_eq, hr⟩

theorem Runs.append {s mid s' : State} {tokens rest : List Token} (h : Runs s tokens mid)
    (hr : Runs mid rest s') : Runs s (tokens ++ rest) s' := by
  unfold Runs at h hr ⊢
  rw [List.foldlM_append, h]
  exact hr

/-- What every step preserves holds after a run; it may refer to the tokens read so far. -/
theorem Runs.preserves {P : State → List Token → Prop}
    (hstep : ∀ {s s' tokens t}, P s tokens → step s t = .ok s' → P s' (tokens ++ [t]))
    {s s' : State} {tokens rest : List Token} (h : P s tokens) (hr : Runs s rest s') :
    P s' (tokens ++ rest) := by
  induction rest generalizing s tokens with
  | nil =>
    cases hr
    rwa [List.append_nil]
  | cons t rest ih =>
    obtain ⟨mid, hs, hr⟩ := runs_cons.1 hr
    rw [List.append_cons]
    exact ih (hstep h hs) hr

theorem Fails.cons {s mid : State} {t : Token} {tokens : List Token} {e : SyntaxError}
    (h : Steps s.level s.outer t s.mode (.ok mid)) (hf : Fails mid tokens e) :
    Fails s (t :: tokens) e := by
  unfold Fails at hf ⊢
  rw [List.foldlM_cons, h.step_eq]
  exact hf

theorem Fails.head {s : State} {t : Token} {tokens : List Token} {e : SyntaxError}
    (h : Steps s.level s.outer t s.mode (.error e)) : Fails s (t :: tokens) e := by
  unfold Fails
  rw [List.foldlM_cons, h.step_eq]
  rfl

theorem Fails.append {s : State} {tokens : List Token} {e : SyntaxError} (h : Fails s tokens e)
    (rest : List Token) : Fails s (tokens ++ rest) e := by
  unfold Fails at h ⊢
  rw [List.foldlM_append, h]
  rfl

theorem Runs.fails {s mid : State} {tokens rest : List Token} {e : SyntaxError}
    (h : Runs s tokens mid) (hf : Fails mid rest e) : Fails s (tokens ++ rest) e := by
  unfold Runs at h
  unfold Fails at hf ⊢
  rw [List.foldlM_append, h]
  exact hf

end FilterQuery.Query.Reading

namespace FilterQuery.Grammar
open Query.Reading

/-! ### Tokens of the grammar can be read -/

theorem IsValues.runs {tokens values : List Token} (hv : IsValues tokens values) {level : Level}
    {outer : List Level} {h : Head} {first : Nat} (read : List Token) :
    Runs ⟨level, outer, .value h first read⟩ tokens
      ⟨level, outer, .afterValue h first (values.reverse ++ read)⟩ := by
  induction hv generalizing read with
  | one hk => exact .cons (.value hk) (.nil _)
  | more hk hs _ ih =>
    rw [List.reverse_cons, List.append_assoc]
    exact .cons (.value hk) (.cons (.separator hs) (ih _))

theorem IsArguments.runs {h : Head} {tokens values : List Token}
    (ha : IsArguments h.operator.arity tokens values) {level : Level} {outer : List Level} :
    Runs ⟨level, outer, .arguments h⟩ tokens
      ⟨level.add (.atom (h.comparison values)), outer, .afterItem⟩ := by
  cases ha with
  | bare hk hp => exact .cons (.bare hk hp) (.nil _)
  | @list opening closing inner values ho hv hc hs hp =>
    have hvalues : Runs ⟨level, outer, .value h opening.span.offset []⟩ inner
        ⟨level, outer, .afterValue h opening.span.offset values.reverse⟩ := by
      rw [← List.append_nil values.reverse]
      exact hv.runs []
    have hp' : h.operator.arity = .pair → values.reverse.length = 2 := by
      intro hpair
      rw [List.length_reverse]
      exact hp hpair
    have hend : Steps level outer closing (.afterValue h opening.span.offset values.reverse)
        (.ok ⟨level.add (.atom (h.comparison values.reverse.reverse)), outer, .afterItem⟩) :=
      .ending hc hs hp'
    rw [List.reverse_reverse] at hend
    exact .cons (.list ho) (hvalues.append (.cons hend (.nil _)))

theorem IsComparison.runs {tokens : List Token} {p : Placed} (hp : IsComparison tokens p)
    {level : Level} {outer : List Level} :
    Runs ⟨level, outer, .item⟩ tokens ⟨level.add (.atom p), outer, .afterItem⟩ := by
  obtain @⟨selector, operator, tokens, values, op, hs, hseg, ho, hsp, ha⟩ := hp
  have hhead : Runs ⟨level, outer, .item⟩ [selector, operator]
      ⟨level, outer, .arguments ⟨selector, op, operator.span⟩⟩ :=
    .cons (.selector hs (hasSegments_iff.2 hseg)) (.cons (.operator ho hsp) (.nil _))
  exact hhead.append (IsArguments.runs ha)

mutual

/-- An item is read and added to the group at hand. -/
theorem IsItem.runs {depth : Nat} {tokens : List Token} {q : Query} :
    IsItem depth tokens q → ∀ (level : Level) (outer : List Level),
      depth + outer.length ≤ maxGroups →
      Runs ⟨level, outer, .item⟩ tokens ⟨level.add q, outer, .afterItem⟩
  | .comparison hp, _, _, _ => hp.runs
  | @IsItem.group n _ closing _ parts ho ha hc, level, outer, hd => by
    have hroom : outer.length < maxGroups := by omega
    have hd' : n + (level :: outer).length ≤ maxGroups := by
      rw [List.length_cons]
      omega
    obtain ⟨inner, hr, hi⟩ := IsAlternatives.runs ha .empty _ rfl hd'
    have hclose : inner.close = .join .or parts := by
      rw [Level.close, hi, Level.empty, List.append_nil, List.reverse_reverse]
    rw [← hclose]
    exact .cons (.opening ho hroom) (hr.append (.cons (.closing hc rfl) (.nil _)))

/-- The items of a conjunction are added to the conjunction at hand. -/
theorem IsConjunction.runs {depth : Nat} {tokens : List Token} {parts : List Query} :
    IsConjunction depth tokens parts → ∀ (level : Level) (outer : List Level),
      depth + outer.length ≤ maxGroups →
      Runs ⟨level, outer, .item⟩ tokens
        ⟨⟨level.conjunctions, parts.reverse ++ level.items⟩, outer, .afterItem⟩
  | .one hi, level, outer, hd => hi.runs level outer hd
  | @IsConjunction.and m n _ _ _ q _ hi hm hc, level, outer, hd => by
    have hdm : m + outer.length ≤ maxGroups := by omega
    have hdn : n + outer.length ≤ maxGroups := by omega
    have hitem := hi.runs level outer hdm
    have hrest := IsConjunction.runs hc (level.add q) outer hdn
    rw [List.reverse_cons, List.append_assoc]
    exact hitem.append (.cons (.and hm) hrest)

/-- The conjunctions of a group are added to those that are finished, once the last one is. -/
theorem IsAlternatives.runs {depth : Nat} {tokens : List Token} {parts : List Query} :
    IsAlternatives depth tokens parts → ∀ (level : Level) (outer : List Level), level.items = [] →
      depth + outer.length ≤ maxGroups →
      ∃ inner, Runs ⟨level, outer, .item⟩ tokens ⟨inner, outer, .afterItem⟩ ∧
        inner.next.conjunctions = parts.reverse ++ level.conjunctions
  | .one hc, level, outer, hl, hd => by
    refine ⟨_, hc.runs level outer hd, ?_⟩
    simp [Level.next, hl]
  | @IsAlternatives.or m n _ _ _ _ _ hc hm ha, level, outer, hl, hd => by
    have hdm : m + outer.length ≤ maxGroups := by omega
    have hdn : n + outer.length ≤ maxGroups := by omega
    have hr := IsConjunction.runs hc level outer hdm
    obtain ⟨inner, hr', hi⟩ :=
      IsAlternatives.runs ha (Level.next ⟨level.conjunctions, _⟩) outer rfl hdn
    refine ⟨inner, hr.append (.cons (.or hm) hr'), ?_⟩
    rw [hi]
    simp [Level.next, hl]

end

/-! ### Too many open groups -/

mutual

/-- Reading fails at the parenthesis that opens one group too many. -/
theorem IsItem.fails {depth : Nat} {tokens : List Token} {q : Query} :
    IsItem depth tokens q → ∀ (level : Level) (outer : List Level), outer.length ≤ maxGroups →
      maxGroups < depth + outer.length →
      ∃ t ∈ tokens, t.kind = .openGroup ∧
        Fails ⟨level, outer, .item⟩ tokens (Query.unexpected .fewerGroups t)
  | .comparison _, _, _, hl, hd => by omega
  | @IsItem.group n opening _ _ _ ho ha hc, level, outer, hl, hd => by
    by_cases hlt : outer.length < maxGroups
    · have hlen : (level :: outer).length = outer.length + 1 := rfl
      have hroom : (level :: outer).length ≤ maxGroups := by omega
      have hdeep : maxGroups < n + (level :: outer).length := by omega
      obtain ⟨t, ht, hk, hf⟩ := IsAlternatives.fails ha .empty (level :: outer) hroom hdeep
      exact ⟨t, by simp [ht], hk, .cons (.opening ho hlt) (hf.append _)⟩
    · have hfull : maxGroups ≤ outer.length := by omega
      exact ⟨opening, by simp, ho, .head (.tooDeep ho hfull)⟩

theorem IsConjunction.fails {depth : Nat} {tokens : List Token} {parts : List Query} :
    IsConjunction depth tokens parts → ∀ (level : Level) (outer : List Level),
      outer.length ≤ maxGroups → maxGroups < depth + outer.length →
      ∃ t ∈ tokens, t.kind = .openGroup ∧
        Fails ⟨level, outer, .item⟩ tokens (Query.unexpected .fewerGroups t)
  | .one hi, level, outer, hl, hd => hi.fails level outer hl hd
  | @IsConjunction.and m n _ _ _ _ _ hi hm hc, level, outer, hl, hd => by
    by_cases hfit : m + outer.length ≤ maxGroups
    · have hdeep : maxGroups < n + outer.length := by omega
      obtain ⟨t, ht, hk, hf⟩ := IsConjunction.fails hc (level.add _) outer hl hdeep
      have hitem := hi.runs level outer hfit
      exact ⟨t, by simp [ht], hk, hitem.fails (.cons (.and hm) hf)⟩
    · have hdeep : maxGroups < m + outer.length := by omega
      obtain ⟨t, ht, hk, hf⟩ := IsItem.fails hi level outer hl hdeep
      exact ⟨t, by simp [ht], hk, hf.append _⟩

theorem IsAlternatives.fails {depth : Nat} {tokens : List Token} {parts : List Query} :
    IsAlternatives depth tokens parts → ∀ (level : Level) (outer : List Level),
      outer.length ≤ maxGroups → maxGroups < depth + outer.length →
      ∃ t ∈ tokens, t.kind = .openGroup ∧
        Fails ⟨level, outer, .item⟩ tokens (Query.unexpected .fewerGroups t)
  | .one hc, level, outer, hl, hd => hc.fails level outer hl hd
  | @IsAlternatives.or m n _ _ _ _ _ hc hm ha, level, outer, hl, hd => by
    by_cases hfit : m + outer.length ≤ maxGroups
    · have hdeep : maxGroups < n + outer.length := by omega
      obtain ⟨t, ht, hk, hf⟩ := IsAlternatives.fails ha (Level.next _) outer hl hdeep
      have hitems := hc.runs level outer hfit
      exact ⟨t, by simp [ht], hk, hitems.fails (.cons (.or hm) hf)⟩
    · have hdeep : maxGroups < m + outer.length := by omega
      obtain ⟨t, ht, hk, hf⟩ := IsConjunction.fails hc level outer hl hdeep
      exact ⟨t, by simp [ht], hk, hf.append _⟩

end

end FilterQuery.Grammar
