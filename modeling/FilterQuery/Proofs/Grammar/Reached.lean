import FilterQuery.Proofs.Grammar.Reading

/-!
# What is read comes from the grammar

* `Reached s tokens` : the state `s` holds what `tokens` write so far. The groups on its stack are
  begun, the item at hand is not finished, or the item before is;
* `Reached.step`, `Reached.runs` : steps and runs keep this;
* `ofTokens_eq_ok_iff_isQuery` : a list of tokens is read as a query exactly if the grammar derives
  it, and then the comparisons say what the tokens say, in the same order.
-/

set_option autoImplicit false

namespace FilterQuery.Grammar
open Query.Reading

/-! ### A comparison at hand -/

/-- A selector and an operator. -/
def IsHead (h : Head) (tokens : List Token) : Prop :=
  ∃ operator, tokens = [h.selector, operator] ∧ h.selector.kind = .selector ∧
    hasSegments h.selector.text ∧ operator.kind = .operator ∧
    h.operator.IsSpelling operator.text ∧ h.operatorSpan = operator.span

theorem IsHead.comparison {h : Head} {tokens rest values : List Token} (hh : IsHead h tokens)
    (ha : IsArguments h.operator.arity rest values) :
    IsComparison (tokens ++ rest) (h.comparison values) := by
  obtain ⟨selector, op, span⟩ := h
  obtain ⟨operator, rfl, hs, hseg, ho, hsp, rfl⟩ := hh
  exact .intro hs (hasSegments_iff.1 hseg) ho hsp ha

/-- Values with a separator after each, the last value first. -/
inductive Separated : List Token → List Token → Prop
  | nil : Separated [] []
  | snoc {tokens values : List Token} {v separator : Token} : Separated tokens values →
      v.kind = .value → separator.kind = .separator →
      Separated (tokens ++ [v, separator]) (v :: values)

theorem Separated.values {tokens values : List Token} (h : Separated tokens values) {v : Token}
    (hv : v.kind = .value) : IsValues (tokens ++ [v]) (v :: values).reverse := by
  induction h generalizing v with
  | nil => exact .one hv
  | snoc _ hw hs ih =>
    have := (ih hw).snoc hs hv
    simpa using this

/-- The tokens of an item that is not finished. -/
inductive Pending : Mode → List Token → Prop
  | item : Pending .item []
  | operator {selector : Token} : selector.kind = .selector → hasSegments selector.text →
      Pending (.operator selector) [selector]
  | arguments {h : Head} {tokens : List Token} : IsHead h tokens → Pending (.arguments h) tokens
  | value {h : Head} {first : Nat} {opening : Token} {tokens rest values : List Token} :
      IsHead h tokens → opening.kind = .openGroup → Separated rest values →
      Pending (.value h first values) (tokens ++ opening :: rest)
  | afterValue {h : Head} {first : Nat} {opening v : Token} {tokens rest values : List Token} :
      IsHead h tokens → opening.kind = .openGroup → Separated rest values → v.kind = .value →
      Pending (.afterValue h first (v :: values)) (tokens ++ opening :: (rest ++ [v]))

/-! ### Groups at hand -/

/-- An item whose groups fit inside `k` others. -/
def Fits (k : Nat) (tokens : List Token) (q : Query) : Prop :=
  ∃ depth, IsItem depth tokens q ∧ depth + k ≤ maxGroups

/-- Items with an "and" after each, the last item first. -/
inductive Items (k : Nat) : List Query → List Token → Prop
  | nil : Items k [] []
  | snoc {items : List Query} {tokens rest : List Token} {q : Query} {mark : Token} :
      Items k items tokens → Fits k rest q → mark.kind = .and →
      Items k (q :: items) (tokens ++ rest ++ [mark])

theorem Items.conjunction {k : Nat} {items : List Query} {tokens : List Token}
    (h : Items k items tokens) {rest : List Token} {q : Query} (hq : Fits k rest q) :
    ∃ depth, IsConjunction depth (tokens ++ rest) (q :: items).reverse ∧
      depth + k ≤ maxGroups := by
  induction h generalizing rest q with
  | nil =>
    obtain ⟨depth, hi, hd⟩ := hq
    exact ⟨depth, .one hi, hd⟩
  | snoc _ hr hm ih =>
    obtain ⟨m, hc, hmk⟩ := ih hr
    obtain ⟨n, hi, hnk⟩ := hq
    have hmax : max m n + k ≤ maxGroups := by omega
    have := hc.snoc hm hi
    refine ⟨max m n, ?_, hmax⟩
    rwa [List.append_assoc, List.reverse_cons]

/-- Conjunctions with an "or" after each, the last one first. -/
inductive Conjunctions (k : Nat) : List Query → List Token → Prop
  | nil : Conjunctions k [] []
  | snoc {conjunctions parts : List Query} {tokens rest : List Token} {depth : Nat} {mark : Token} :
      Conjunctions k conjunctions tokens → IsConjunction depth rest parts →
      depth + k ≤ maxGroups → mark.kind = .or →
      Conjunctions k (.join .and parts :: conjunctions) (tokens ++ rest ++ [mark])

theorem Conjunctions.alternatives {k : Nat} {conjunctions : List Query} {tokens : List Token}
    (h : Conjunctions k conjunctions tokens) {depth : Nat} {rest : List Token} {parts : List Query}
    (hc : IsConjunction depth rest parts) (hd : depth + k ≤ maxGroups) :
    ∃ depth, IsAlternatives depth (tokens ++ rest) (.join .and parts :: conjunctions).reverse ∧
      depth + k ≤ maxGroups := by
  induction h generalizing depth rest parts with
  | nil => exact ⟨depth, .one hc, hd⟩
  | snoc _ hr hrk hm ih =>
    obtain ⟨m, ha, hmk⟩ := ih hr hrk
    have hmax : max m depth + k ≤ maxGroups := by omega
    have := ha.snoc hm hc
    refine ⟨max m depth, ?_, hmax⟩
    rwa [List.append_assoc, List.reverse_cons]

/-- The tokens of a group inside `k` others, up to the next item. -/
def Begun (k : Nat) (level : Level) (tokens : List Token) : Prop :=
  ∃ front back, tokens = front ++ back ∧ Conjunctions k level.conjunctions front ∧
    Items k level.items back

theorem begun_empty (k : Nat) : Begun k .empty [] := ⟨[], [], rfl, .nil, .nil⟩

theorem Begun.and {k : Nat} {level : Level} {tokens rest : List Token} {q : Query} {mark : Token}
    (h : Begun k level tokens) (hq : Fits k rest q) (hm : mark.kind = .and) :
    Begun k (level.add q) (tokens ++ rest ++ [mark]) := by
  obtain ⟨front, back, rfl, hc, hi⟩ := h
  exact ⟨front, back ++ rest ++ [mark], by simp, hc, hi.snoc hq hm⟩

theorem Begun.or {k : Nat} {level : Level} {tokens rest : List Token} {q : Query} {mark : Token}
    (h : Begun k level tokens) (hq : Fits k rest q) (hm : mark.kind = .or) :
    Begun k (level.add q).next (tokens ++ rest ++ [mark]) := by
  obtain ⟨front, back, rfl, hc, hi⟩ := h
  obtain ⟨depth, hconj, hd⟩ := hi.conjunction hq
  refine ⟨front ++ (back ++ rest) ++ [mark], [], by simp, ?_, .nil⟩
  exact hc.snoc hconj hd hm

theorem Begun.close {k : Nat} {level : Level} {tokens rest : List Token} {q : Query}
    (h : Begun k level tokens) (hq : Fits k rest q) :
    ∃ depth parts, IsAlternatives depth (tokens ++ rest) parts ∧ depth + k ≤ maxGroups ∧
      (level.add q).close = .join .or parts := by
  obtain ⟨front, back, rfl, hc, hi⟩ := h
  obtain ⟨m, hconj, hm⟩ := hi.conjunction hq
  obtain ⟨n, halt, hn⟩ := hc.alternatives hconj hm
  exact ⟨n, _, by rwa [List.append_assoc], hn, rfl⟩

/-- The tokens of the groups around the one at hand. -/
inductive Enclosed : List Level → List Token → Prop
  | nil : Enclosed [] []
  | push {level : Level} {outer : List Level} {tokens rest : List Token} {opening : Token} :
      Enclosed outer tokens → Begun outer.length level rest → opening.kind = .openGroup →
      outer.length < maxGroups → Enclosed (level :: outer) (tokens ++ rest ++ [opening])

theorem Enclosed.length_le {outer : List Level} {tokens : List Token} (h : Enclosed outer tokens) :
    outer.length ≤ maxGroups := by
  cases h with
  | nil => exact Nat.zero_le _
  | push _ _ _ hlt => exact hlt

/-! ### The invariant -/

/-- The state holds what the tokens write so far. -/
inductive Reached : State → List Token → Prop
  | within {level : Level} {outer : List Level} {mode : Mode} {around begun pending : List Token} :
      Enclosed outer around → Begun outer.length level begun → Pending mode pending →
      Reached ⟨level, outer, mode⟩ (around ++ begun ++ pending)
  | after {level : Level} {outer : List Level} {q : Query} {around begun item : List Token} :
      Enclosed outer around → Begun outer.length level begun → Fits outer.length item q →
      Reached ⟨level.add q, outer, .afterItem⟩ (around ++ begun ++ item)

theorem reached_start : Reached start [] := .within .nil (begun_empty 0) .item

theorem Reached.congr {s : State} {tokens tokens' : List Token} (h : Reached s tokens)
    (ht : tokens = tokens') : Reached s tokens' := ht ▸ h

section Steps

variable {level : Level} {outer : List Level} {around begun tokens : List Token}

theorem reached_comparison {h : Head} {rest values : List Token} (ha : Enclosed outer around)
    (hb : Begun outer.length level begun) (hh : IsHead h tokens)
    (hv : IsArguments h.operator.arity rest values) :
    Reached ⟨level.add (.atom (h.comparison values)), outer, .afterItem⟩
      (around ++ begun ++ (tokens ++ rest)) := by
  have hroom : 0 + outer.length ≤ maxGroups := by
    rw [Nat.zero_add]
    exact ha.length_le
  have hfits : Fits outer.length (tokens ++ rest) (.atom (h.comparison values)) :=
    ⟨0, .comparison (hh.comparison hv), hroom⟩
  exact .after ha hb hfits

theorem reached_closing {inner : Level} {q : Query} {written : List Token} {t : Token}
    (ha : Enclosed (level :: outer) around) (hb : Begun (level :: outer).length inner begun)
    (hq : Fits (level :: outer).length written q) (hk : t.kind = .closeGroup) :
    Reached ⟨level.add (inner.add q).close, outer, .afterItem⟩
      (around ++ begun ++ written ++ [t]) := by
  cases ha with
  | @push _ _ _ _ opening he hi ho _ =>
    obtain ⟨depth, parts, halt, hd, hclose⟩ := hb.close hq
    have hroom : depth + 1 + outer.length ≤ maxGroups := by
      rw [List.length_cons] at hd
      omega
    have hgroup : Fits outer.length (opening :: (begun ++ written) ++ [t]) (.join .or parts) :=
      ⟨depth + 1, .group ho halt hk, hroom⟩
    rw [hclose]
    exact (Reached.after he hi hgroup).congr (by simp)

variable {mode : Mode} {s : State} {t : Token}

/-- A token that goes on with an item. -/
theorem Pending.step {pending : List Token} (hp : Pending mode pending) (ha : Enclosed outer around)
    (hb : Begun outer.length level begun) (hs : Steps level outer t mode (.ok s)) :
    Reached s (around ++ begun ++ (pending ++ [t])) := by
  cases hp with
  | item =>
    cases hs with
    | opening hk hroom =>
      exact (Reached.within (ha.push hb hk hroom) (begun_empty _) .item).congr (by simp)
    | selector hk hseg => exact .within ha hb (.operator hk hseg)
  | operator hk hseg =>
    cases hs with
    | operator ho hsp => exact .within ha hb (.arguments ⟨t, rfl, hk, hseg, ho, hsp, rfl⟩)
  | arguments hh =>
    cases hs with
    | bare hk hp => exact reached_comparison ha hb hh (.bare hk hp)
    | list hk => exact .within ha hb (.value hh hk .nil)
  | value hh ho hv =>
    cases hs with
    | value hk => exact (Reached.within ha hb (.afterValue hh ho hv hk)).congr (by simp)
  | afterValue hh ho hv hvk =>
    cases hs with
    | separator hk => exact (Reached.within ha hb (.value hh ho (hv.snoc hvk hk))).congr (by simp)
    | ending hk hsingle hpair =>
      rw [← List.length_reverse] at hpair
      have hlist := IsArguments.list ho (hv.values hvk) hk hsingle hpair
      exact (reached_comparison ha hb hh hlist).congr (by simp)

end Steps

/-- Reading one more token keeps the invariant. -/
theorem Reached.step {s s' : State} {tokens : List Token} {t : Token} (h : Reached s tokens)
    (hs : Query.Reading.step s t = .ok s') : Reached s' (tokens ++ [t]) := by
  have hs := step_eq_iff.1 hs
  cases h with
  | within ha hb hp =>
    rw [List.append_assoc]
    exact hp.step ha hb hs
  | after ha hb hq =>
    cases hs with
    | and hk => exact (Reached.within ha (hb.and hq hk) .item).congr (by simp)
    | or hk => exact (Reached.within ha (hb.or hq hk) .item).congr (by simp)
    | closing hk houter =>
      subst houter
      exact reached_closing ha hb hq hk

/-- Reading any number of tokens keeps the invariant. -/
theorem Reached.runs {s s' : State} {tokens rest : List Token} (h : Reached s tokens)
    (hr : Runs s rest s') : Reached s' (tokens ++ rest) := hr.preserves Reached.step h

theorem Reached.finish {s : State} {tokens : List Token} {stop : Nat} {q : Query}
    (h : Reached s tokens) (hf : Query.Reading.finish stop s = .ok q) : IsQuery tokens q := by
  cases h with
  | within ha hb hp => cases hp <;> cases hf
  | @after level outer item around begun written ha hb hq =>
    unfold Query.Reading.finish State.awaits at hf
    cases ha with
    | nil =>
      obtain ⟨depth, parts, halt, hd, hclose⟩ := hb.close hq
      cases hf
      exact ⟨depth, parts, by simpa using halt, hd, hclose⟩
    | push => cases hf

/-! ### Queries -/

theorem ofTokens_eq_ok {tokens : List Token} {q : Query} :
    Query.ofTokens tokens = .ok q ↔
      ∃ s, Runs start tokens s ∧ finish (Query.endOf tokens) s = .ok q := by
  unfold Query.ofTokens Runs
  exact bind_eq_ok

theorem IsQuery.ofTokens {tokens : List Token} {q : Query} (h : IsQuery tokens q) :
    Query.ofTokens tokens = .ok q := by
  obtain ⟨depth, parts, ha, hd, rfl⟩ := h
  obtain ⟨inner, hr, hi⟩ := ha.runs .empty [] rfl hd
  refine ofTokens_eq_ok.2 ⟨_, hr, ?_⟩
  show Except.ok inner.close = _
  rw [Level.close, hi, Level.empty, List.append_nil, List.reverse_reverse]

theorem isQuery_of_ofTokens {tokens : List Token} {q : Query}
    (h : Query.ofTokens tokens = .ok q) : IsQuery tokens q := by
  obtain ⟨s, hr, hf⟩ := ofTokens_eq_ok.1 h
  have := reached_start.runs hr
  rw [List.nil_append] at this
  exact this.finish hf

theorem IsAlternatives.ofTokens_too_deep {depth : Nat} {tokens : List Token} {parts : List Query}
    (h : IsAlternatives depth tokens parts) (hd : maxGroups < depth) :
    ∃ t ∈ tokens, t.kind = .openGroup ∧
      Query.ofTokens tokens = .error (Query.unexpected .fewerGroups t) := by
  obtain ⟨t, ht, hk, hf⟩ := h.fails .empty [] (Nat.zero_le _) hd
  refine ⟨t, ht, hk, ?_⟩
  unfold Fails at hf
  unfold Query.ofTokens start
  rw [hf]
  rfl

/-- Tokens are read as a query exactly if the grammar derives it from them, with at most `maxGroups`
groups open at once. Its comparisons, from left to right, then say what the selectors, the operators
and the values among the tokens say, each once and in their order. -/
theorem ofTokens_eq_ok_iff_isQuery (tokens : List Token) (q : Query) :
    (Query.ofTokens tokens = .ok q ↔ IsQuery tokens q) ∧
      (Query.ofTokens tokens = .ok q →
        q.atoms.flatMap Grammar.contents = tokens.filterMap content? ∧
        ∀ p ∈ q.atoms, p.argumentSpans.length = p.arguments.length) := by
  constructor
  · exact ⟨isQuery_of_ofTokens, IsQuery.ofTokens⟩
  · intro h
    have hq := isQuery_of_ofTokens h
    exact ⟨hq.contents, hq.length_spans⟩

end FilterQuery.Grammar
