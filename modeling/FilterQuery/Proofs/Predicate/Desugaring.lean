import FilterQuery.Proofs.Predicate.Comparable
import FilterQuery.Proofs.Predicate.Rendering
import FilterQuery.Record

/-!
# Operators that say what others say together

Lists, ranges and the bounds that are included can be written with simpler operators.

* `Subject`, `Subject.condition` : an attribute as conditions compare it, and a condition on it;
* `Subject.holdsFor_oneOf` and its like : what the operators say of one value;
* `Condition.holdsOn_any`, `Condition.holdsOn_all` : from one value to records. An alternative may be
  found on any chain of relations, but only without relations are all parts tested on the same value;
* `comparisonsText` : comparisons of one attribute, joined by a connective;
* `Desugars` : a comparison that holds of the records of which others hold together;
* `Predicate.desugars` : the comparisons that do.
-/

set_option autoImplicit false

namespace FilterQuery
open Grammar

/-! ### One value -/

/-- Whether something lies in a range, by how it stands to the ends. -/
def within? (low high : Option Ordering) : Option Bool := do
  return (← low) ≠ .lt && (← high) ≠ .gt

theorem within?_eq_some_true (low high : Option Ordering) : decide (within? low high = some true) =
    ((decide (low = some .gt) || decide (low = some .eq)) &&
      (decide (high = some .lt) || decide (high = some .eq))) := by
  rcases low with _ | (_ | _ | _) <;> rcases high with _ | (_ | _ | _) <;> rfl

theorem within?_eq_some_false {low high : Option Ordering} (h : low.isSome = high.isSome) :
    decide (within? low high = some false) =
      (decide (low = some .lt) || decide (high = some .gt)) := by
  rcases low with _ | (_ | _ | _) <;> rcases high with _ | (_ | _ | _) <;> first | rfl | cases h

/-- An attribute as conditions compare it. -/
structure Subject where
  path : AttributePath
  type : ValueType
  foldCase : Bool

namespace Subject

/-- A condition that compares an attribute with values. -/
def condition (s : Subject) (op : Operator) (values : List Value) : Condition :=
  ⟨s.path, op, values, s.type, s.foldCase, none⟩

variable (s : Subject) (actual : Value)

/-- Null satisfies no comparison. -/
theorem holdsFor_eq {op : Operator} {values : List Value} (hop : op.isNullCheck = false) :
    (s.condition op values).holdsFor actual =
      (!actual.isNull && (s.condition op values).holdsForValue actual) := by
  unfold Condition.holdsFor
  cases actual.isNull with
  | false => rfl
  | true => cases op <;> first | rfl | cases hop

theorem holdsFor_oneOf (values : List Value) : (s.condition .oneOf values).holdsFor actual =
    values.any fun v => (s.condition .equal [v]).holdsFor actual := by
  simp (disch := decide) only [holdsFor_eq]
  cases actual.isNull with
  | false => rfl
  | true => simp

theorem holdsFor_noneOf {values : List Value} (hne : values ≠ []) :
    (s.condition .noneOf values).holdsFor actual =
      values.all fun v => (s.condition .notEqual [v]).holdsFor actual := by
  simp (disch := decide) only [holdsFor_eq]
  cases actual.isNull with
  | false => rfl
  | true =>
    obtain ⟨v, values, rfl⟩ := List.exists_cons_of_ne_nil hne
    rfl

theorem holdsFor_greaterEqual (v : Value) : (s.condition .greaterEqual [v]).holdsFor actual =
    ((s.condition .greater [v]).holdsFor actual || (s.condition .equal [v]).holdsFor actual) := by
  simp (disch := decide) only [holdsFor_eq]
  cases actual.isNull <;> rfl

theorem holdsFor_lessEqual (v : Value) : (s.condition .lessEqual [v]).holdsFor actual =
    ((s.condition .less [v]).holdsFor actual || (s.condition .equal [v]).holdsFor actual) := by
  simp (disch := decide) only [holdsFor_eq]
  cases actual.isNull <;> rfl

theorem holdsFor_notEqual (v : Value) : (s.condition .notEqual [v]).holdsFor actual =
    ((s.condition .less [v]).holdsFor actual || (s.condition .greater [v]).holdsFor actual) := by
  simp (disch := decide) only [holdsFor_eq]
  cases actual.isNull <;> rfl

theorem holdsFor_between (low high : Value) :
    (s.condition .between [low, high]).holdsFor actual =
      ((s.condition .greaterEqual [low]).holdsFor actual &&
        (s.condition .lessEqual [high]).holdsFor actual) := by
  simp (disch := decide) only [holdsFor_eq]
  cases actual.isNull with
  | true => rfl
  | false => exact within?_eq_some_true _ _

/-- A value outside of a range is below or above it. That it is below the one end can only be told if
it can be compared with the other end, as it can be with all values of the type or with none. -/
theorem holdsFor_notBetween {low high : Value} (hl : low.IsReadAs s.type s.foldCase)
    (hh : high.IsReadAs s.type s.foldCase) :
    (s.condition .notBetween [low, high]).holdsFor actual =
      ((s.condition .less [low]).holdsFor actual ||
        (s.condition .greater [high]).holdsFor actual) := by
  simp (disch := decide) only [holdsFor_eq]
  cases actual.isNull with
  | true => rfl
  | false =>
    have hcomparable : ((s.condition .less [low]).order actual low).isSome =
        ((s.condition .greater [high]).order actual high).isSome := by
      rw [Condition.isSome_order _ hl, Condition.isSome_order _ hh]
      rfl
    exact within?_eq_some_false hcomparable

end Subject

/-! ### Records -/

section Records

variable {ρ : Type} [Record ρ] {c : Condition} {cs : List Condition}

/-- What holds of one value or another holds of some record that a path leads to, or another does. -/
theorem Condition.holdsOn_any (hpath : ∀ d ∈ cs, d.path = c.path)
    (h : ∀ actual, c.holdsFor actual = cs.any (·.holdsFor actual)) (record : ρ) :
    c.holdsOn record = cs.any (·.holdsOn record) := by
  rw [Bool.eq_iff_iff, List.any_eq_true]
  simp only [holdsOn, h, List.any_eq_true]
  constructor
  · rintro ⟨x, hx, d, hd, hholds⟩
    refine ⟨d, hd, ?_⟩
    rw [hpath d hd]
    exact ⟨x, hx, hholds⟩
  · rintro ⟨d, hd, hholds⟩
    rw [hpath d hd] at hholds
    obtain ⟨x, hx, hholds⟩ := hholds
    exact ⟨x, hx, d, hd, hholds⟩

/-- What holds of all of a record's own values holds of the record. -/
theorem Condition.holdsOn_all (hflat : c.path.relations = []) (hpath : ∀ d ∈ cs, d.path = c.path)
    (h : ∀ actual, c.holdsFor actual = cs.all (·.holdsFor actual)) (record : ρ) :
    c.holdsOn record = cs.all (·.holdsOn record) := by
  have hown {d : Condition} (hd : d.path = c.path) :
      d.holdsOn record = d.holdsFor (Record.scalar record c.path.attributeName) := by
    rw [holdsOn, hd, hflat]
    exact Bool.or_false _
  rw [hown rfl, h, Bool.eq_iff_iff, List.all_eq_true, List.all_eq_true]
  refine forall₂_congr fun d hd => ?_
  rw [hown (hpath d hd)]

end Records

/-! ### Comparisons of one attribute -/

/-- An operator and its arguments. -/
abbrev Test := Operator × Arguments

/-- Comparisons with one operator and one value each. -/
def Test.each (op : Operator) (values : List Operand) : List Test :=
  values.map fun v => (op, .bare v)

/-- The text of a comparison of the attribute that `selector` leads to. -/
def Test.text (selector : String) (test : Test) : List Char :=
  selector.toList ++ test.1.symbol.toList ++ sources test.2.lexemes

/-- The comparison of the attribute that `selector` leads to. -/
def Test.comparison (selector : String) (test : Test) : Comparison :=
  ⟨selector, test.1, test.2.operands.map Operand.content⟩

/-- The text of comparisons of one attribute, joined by a connective. -/
def comparisonsText (c : Connective) (selector : String) (tests : List Test) : String :=
  String.ofList ([c.mark].intercalate (tests.map (Test.text selector)))

example : comparisonsText .or "b" (Test.each .equal [.word ['1'], .word ['2']]) = "b==1,b==2" := by
  decide

/-- The arguments suit the operator and can be written. -/
structure Test.IsProper (test : Test) : Prop where
  suits : test.2.Suits test.1.arity
  proper : ∀ l ∈ test.2.lexemes, l.IsProper

section Texts

variable {selector : String} {c : Connective} {tests : List Test}

theorem exists_query_of_tests (hs : IsSelector selector) (hne : tests ≠ [])
    (h : ∀ test ∈ tests, test.IsProper) :
    ∃ q, Query.ofText (comparisonsText c selector tests) = .ok q ∧
      q.bare = .join c ((tests.map (Test.comparison selector)).map .atom) := by
  have hwritten : IsWritten (Test.text selector) (Test.comparison selector)
      (.join c (tests.map .atom)) := by
    rw [IsWritten, Formula.atoms_join_atoms]
    intro test ht
    exact exists_clause hs (h test ht).suits ⟨rfl, (h test ht).proper⟩
  have hbranching : (Formula.join c (tests.map Formula.atom)).IsBranching := by
    apply Formula.isBranching_join
    · exact fun hnil => hne (List.map_eq_nil_iff.1 hnil)
    · exact List.forall_mem_map.2 fun _ _ => trivial
  have hnesting : (Formula.join c (tests.map Formula.atom)).nesting ≤ maxGroups := by
    rw [Formula.nesting_join_atoms]
    exact Nat.zero_le _
  obtain ⟨q, hq, hbare⟩ := ofText_render hbranching hwritten hnesting
  rw [Formula.render_join_atoms _ _ hne] at hq
  refine ⟨q, hq, ?_⟩
  rw [hbare, Formula.map_join_atoms]

end Texts

/-! ### Compiling comparisons of one attribute -/

section Compile

variable {schema : Schema} {root : String} {options : Options} {selector : String}

/-- The values that operands are read as. -/
def AreReadAs (type : ValueType) (foldCase : Bool) (operands : List Operand) (values : List Value) :
    Prop :=
  List.Forall₂ (fun o v => (coerce o.content type).map (Value.folded foldCase) = .ok v) operands
    values

theorem areReadAs_of_values {type : ValueType} {foldCase : Bool} {operands : List Operand}
    {spans : List Span} {values : List Value} (hs : spans.length = operands.length)
    (h : ((operands.map Operand.content).zip spans).map
      (fun (a, span) => Placed.value type foldCase a span) = values.map .ok) :
    AreReadAs type foldCase operands values := by
  induction operands generalizing spans values with
  | nil =>
    rw [List.map_eq_nil_iff.1 h.symm]
    exact .nil
  | cons o operands ih =>
    obtain ⟨span, spans, rfl⟩ := List.exists_cons_of_length_eq_add_one hs
    obtain ⟨v, values, rfl, hv, hvalues⟩ := List.map_eq_cons_iff.1 h.symm
    have hread : Placed.value type foldCase o.content span = .ok v := hv.symm
    rw [Placed.value_eq, mapError_eq_ok] at hread
    exact .cons hread (ih (Nat.succ.inj hs) hvalues.symm)

theorem AreReadAs.unique {type : ValueType} {foldCase : Bool} {operands : List Operand}
    {vs ws : List Value} (hv : AreReadAs type foldCase operands vs)
    (hw : AreReadAs type foldCase operands ws) : vs = ws := by
  induction hv generalizing ws with
  | nil =>
    cases hw
    rfl
  | cons hv _ ih =>
    cases hw with
    | cons hw hws => rw [Except.ok.inj (hv.symm.trans hw), ih hws]

theorem AreReadAs.isReadAs {type : ValueType} {foldCase : Bool} {operands : List Operand}
    {values : List Value} (h : AreReadAs type foldCase operands values) :
    ∀ v ∈ values, v.IsReadAs type foldCase := by
  intro v hv
  obtain ⟨o, -, ho⟩ := exists_of_mem_forall₂ h.flip hv
  have hvalue : Placed.value type foldCase o.content default = .ok v := by
    rw [Placed.value_eq, mapError_eq_ok]
    exact ho
  exact Placed.isReadAs_of_value hvalue

theorem AreReadAs.single {type : ValueType} {foldCase : Bool} {o : Operand} {values : List Value}
    (h : AreReadAs type foldCase [o] values) : ∃ v, values = [v] := by
  cases h with
  | cons _ hnil =>
    cases hnil
    exact ⟨_, rfl⟩

theorem AreReadAs.pair {type : ValueType} {foldCase : Bool} {o o' : Operand} {values : List Value}
    (h : AreReadAs type foldCase [o, o'] values) : ∃ v w, values = [v, w] ∧
      AreReadAs type foldCase [o] [v] ∧ AreReadAs type foldCase [o'] [w] := by
  cases h with
  | cons hv h =>
    obtain ⟨w, rfl⟩ := AreReadAs.single h
    exact ⟨_, w, rfl, .cons hv .nil, h⟩

/-- The attribute that a selector leads to. -/
def Resolution.subject (found : Resolution) (selector : String) (foldCase : Bool) : Subject :=
  ⟨.parse selector, found.type, foldCase⟩

/-- A comparison of an attribute compiles to a condition. -/
def Test.Gives (schema : Schema) (root : String) (options : Options) (selector : String)
    (test : Test) (d : Condition) : Prop :=
  ∃ found values, resolve schema root selector = .ok found ∧
    AreReadAs found.type (Placed.folds options found test.1) test.2.operands values ∧
    d = (found.subject selector (Placed.folds options found test.1)).condition test.1 values

/-- The operator compares with values, and no star makes a pattern of one. -/
structure Test.Compares (schema : Schema) (root : String) (options : Options) (selector : String)
    (test : Test) : Prop extends test.IsProper where
  noNullCheck : test.1.isNullCheck = false
  noPattern : test.1.isPattern = false
  noWildcard : ∀ found, resolve schema root selector = .ok found →
    Placed.HasNoWildcard options found.type test.1 (test.2.operands.map Operand.content)

theorem Test.gives_of_compile [PatternSize] {test : Test}
    (h : test.Compares schema root options selector) {a : Placed}
    (ha : a.toComparison = test.comparison selector)
    (hs : a.argumentSpans.length = a.arguments.length) {d : Condition}
    (hd : a.compile schema root options = .ok d) : test.Gives schema root options selector d := by
  obtain ⟨found, hfound, -, hcond⟩ := Placed.compile_eq_ok_iff.1 hd
  have hselector : a.selector = selector := congrArg Comparison.selector ha
  have hop : a.operator = test.1 := congrArg Comparison.operator ha
  have harguments : a.arguments = test.2.operands.map Operand.content :=
    congrArg Comparison.arguments ha
  rw [hselector] at hfound
  have heffective : a.effectiveOperator options found.type = test.1 := by
    rw [Placed.effectiveOperator_of_hasNoWildcard, hop]
    rw [hop, harguments]
    exact h.noWildcard found hfound
  rw [heffective] at hcond
  rw [harguments, List.length_map] at hs
  cases hcond with
  | null hnull =>
    rw [h.noNullCheck] at hnull
    cases hnull
  | pattern _ hpattern =>
    rw [h.noPattern] at hpattern
    cases hpattern
  | values _ _ hvalues =>
    rw [harguments] at hvalues
    rw [hselector]
    exact ⟨found, _, hfound, areReadAs_of_values hs hvalues, rfl⟩

theorem Test.Gives.path {test : Test} {d : Condition}
    (h : test.Gives schema root options selector d) : d.path = .parse selector := by
  obtain ⟨_, _, _, _, rfl⟩ := h
  rfl

theorem Test.Gives.eq_condition {test : Test} {d : Condition} {found : Resolution} {foldCase : Bool}
    {values : List Value} (h : test.Gives schema root options selector d)
    (hfound : resolve schema root selector = .ok found)
    (hfold : Placed.folds options found test.1 = foldCase)
    (hread : AreReadAs found.type foldCase test.2.operands values) :
    d = (found.subject selector foldCase).condition test.1 values := by
  obtain ⟨found', values', hfound', hread', rfl⟩ := h
  obtain rfl := Except.ok.inj (hfound'.symm.trans hfound)
  rw [hfold] at hread' ⊢
  rw [hread'.unique hread]

theorem forall₂_gives [PatternSize] {tests : List Test} {placed : List Placed} {ds : List Condition}
    (h : ∀ test ∈ tests, test.Compares schema root options selector)
    (hs : ∀ a ∈ placed, a.argumentSpans.length = a.arguments.length)
    (hplaced : placed.map Placed.toComparison = tests.map (Test.comparison selector))
    (hds : ds.map .ok = placed.map (·.compile schema root options)) :
    List.Forall₂ (Test.Gives schema root options selector) tests ds := by
  induction tests generalizing placed ds with
  | nil =>
    rw [List.map_eq_nil_iff.1 hplaced] at hds
    rw [List.map_eq_nil_iff.1 hds]
    exact .nil
  | cons test tests ih =>
    obtain ⟨a, placed, rfl, ha, hplaced⟩ := List.map_eq_cons_iff.1 hplaced
    obtain ⟨d, ds, rfl, hd, hds⟩ := List.map_eq_cons_iff.1 hds
    obtain ⟨htest, htests⟩ := List.forall_mem_cons.1 h
    obtain ⟨hsa, hsplaced⟩ := List.forall_mem_cons.1 hs
    exact .cons (Test.gives_of_compile htest ha hsa hd.symm) (ih htests hsplaced hplaced hds)

/-- The predicate of comparisons of one attribute. -/
theorem exists_gives [PatternSize] {c : Connective} {tests : List Test} {p : Predicate}
    (hs : IsSelector selector) (hne : tests ≠ [])
    (h : ∀ test ∈ tests, test.Compares schema root options selector)
    (hp : Predicate.ofText (comparisonsText c selector tests) schema root options = .ok p) :
    ∃ ds : List Condition, p = .join c (ds.map .atom) ∧
      List.Forall₂ (Test.Gives schema root options selector) tests ds := by
  obtain ⟨q, hq, hcompile⟩ := Predicate.ofText_eq_ok.1 hp
  obtain ⟨q', hq', hbare⟩ :=
    exists_query_of_tests (c := c) hs hne fun test ht => (h test ht).toIsProper
  obtain rfl := Except.ok.inj (hq'.symm.trans hq)
  have hspans := length_spans_of_ofText hq
  obtain ⟨placed, rfl, hplaced⟩ := Formula.exists_atoms_of_map_eq_join hbare
  rw [Formula.map_join_atoms] at hcompile
  rw [Formula.atoms_join_atoms] at hspans
  obtain ⟨ds, rfl, hds⟩ := Formula.exists_atoms_of_map_eq_join hcompile.symm
  exact ⟨ds, rfl, forall₂_gives h hspans hplaced hds⟩

/-- A comparison holds of the records of which others, joined by a connective, hold together, if there
are predicates for both. -/
def Desugars [PatternSize] (schema : Schema) (root : String) (options : Options) (selector : String)
    (test : Test) (c : Connective) (tests : List Test) : Prop :=
  ∀ p p', Predicate.ofText (String.ofList (test.text selector)) schema root options = .ok p →
    Predicate.ofText (comparisonsText c selector tests) schema root options = .ok p' →
    ∀ (ρ : Type) [Record ρ] (record : ρ), (p.evaluate record).holds = (p'.evaluate record).holds

variable {test : Test} {tests : List Test}

theorem exists_gives_single [PatternSize] {p : Predicate} (hs : IsSelector selector)
    (h : test.Compares schema root options selector)
    (hp : Predicate.ofText (String.ofList (test.text selector)) schema root options = .ok p) :
    ∃ d, p = .atom d ∧ test.Gives schema root options selector d := by
  have htext : String.ofList (test.text selector) = comparisonsText .or selector [test] := by
    rw [comparisonsText, List.map_singleton, List.intercalate_singleton]
  rw [htext] at hp
  obtain ⟨ds, rfl, hds⟩ := exists_gives hs (List.cons_ne_nil _ _) (List.forall_mem_singleton.2 h) hp
  cases hds with
  | cons hd hnil =>
    cases hnil
    exact ⟨_, rfl, hd⟩

theorem path_of_gives {d : Condition} {ds : List Condition}
    (hd : test.Gives schema root options selector d)
    (hds : List.Forall₂ (Test.Gives schema root options selector) tests ds) :
    ∀ e ∈ ds, e.path = d.path := by
  intro e he
  obtain ⟨t, -, ht⟩ := exists_of_mem_forall₂ hds.flip he
  rw [Test.Gives.path ht, hd.path]

theorem desugars_or [PatternSize] (hs : IsSelector selector) (hne : tests ≠ [])
    (htest : test.Compares schema root options selector)
    (htests : ∀ t ∈ tests, t.Compares schema root options selector)
    (h : ∀ d ds, test.Gives schema root options selector d →
      List.Forall₂ (Test.Gives schema root options selector) tests ds →
      ∀ actual, d.holdsFor actual = ds.any (·.holdsFor actual)) :
    Desugars schema root options selector test .or tests := by
  intro p p' hp hp' ρ _ record
  obtain ⟨d, rfl, hd⟩ := exists_gives_single hs htest hp
  obtain ⟨ds, rfl, hds⟩ := exists_gives hs hne htests hp'
  rw [Predicate.evaluate, Predicate.evaluate, Formula.holds_join_or, List.any_map]
  exact Condition.holdsOn_any (path_of_gives hd hds) (h d ds hd hds) record

theorem desugars_and [PatternSize] (hs : IsSelector selector) (hne : tests ≠ [])
    (hflat : (AttributePath.parse selector).relations = [])
    (htest : test.Compares schema root options selector)
    (htests : ∀ t ∈ tests, t.Compares schema root options selector)
    (h : ∀ d ds, test.Gives schema root options selector d →
      List.Forall₂ (Test.Gives schema root options selector) tests ds →
      ∀ actual, d.holdsFor actual = ds.all (·.holdsFor actual)) :
    Desugars schema root options selector test .and tests := by
  intro p p' hp hp' ρ _ record
  obtain ⟨d, rfl, hd⟩ := exists_gives_single hs htest hp
  obtain ⟨ds, rfl, hds⟩ := exists_gives hs hne htests hp'
  rw [Predicate.evaluate, Predicate.evaluate, Formula.holds_join_and, List.all_map]
  exact Condition.holdsOn_all (hd.path ▸ hflat) (path_of_gives hd hds) (h d ds hd hds) record

/-! ### Which comparisons say what others say together -/

/-- No star makes a pattern of one of the values. -/
def HasNoStars (schema : Schema) (root : String) (options : Options) (selector : String)
    (values : List Operand) : Prop :=
  ∀ found, resolve schema root selector = .ok found → found.type = .string →
    options.wildcardEquality → ∀ v ∈ values, star ∉ v.content.toList

/-- Case matters where strings of the attribute are compared. -/
def IsCaseSensitive (schema : Schema) (root : String) (options : Options) (selector : String) :
    Prop :=
  ∀ found, resolve schema root selector = .ok found → found.type = .string →
    found.caseInsensitive = false ∧ options.caseInsensitiveStrings = false

theorem IsCaseSensitive.folds (h : IsCaseSensitive schema root options selector)
    {found : Resolution} (hfound : resolve schema root selector = .ok found) (op : Operator) :
    Placed.folds options found op = false := by
  unfold Placed.folds
  by_cases ht : found.type = .string
  · obtain ⟨hfound, hoptions⟩ := h found hfound ht
    rw [hfound, hoptions, Bool.or_false, Bool.and_false]
  · rw [decide_eq_false ht, Bool.false_and, Bool.false_and]

theorem Grammar.Arguments.isProper_valueRoles : ∀ {first : Operand} {others : List Operand},
    (∀ o ∈ first :: others, o.lexeme.IsProper) →
      ∀ l ∈ (valueRoles first others).map Prod.snd, l.IsProper
  | v, [], h => List.forall_mem_singleton.2 (h v List.mem_cons_self)
  | v, w :: others, h => by
    obtain ⟨hv, hothers⟩ := List.forall_mem_cons.1 h
    rw [valueRoles, List.map_cons, List.map_cons]
    exact List.forall_mem_cons.2 ⟨hv, List.forall_mem_cons.2 ⟨trivial, isProper_valueRoles hothers⟩⟩

theorem compares_bare {op : Operator} {v : Operand} (hv : v.lexeme.IsProper)
    (hop : op.arity ≠ .pair) (hnull : op.isNullCheck = false) (hpattern : op.isPattern = false)
    (hstars : op = .equal ∨ op = .notEqual → HasNoStars schema root options selector [v]) :
    Test.Compares schema root options selector (op, .bare v) where
  suits := hop
  proper := List.forall_mem_singleton.2 hv
  noNullCheck := hnull
  noPattern := hpattern
  noWildcard found hfound heq hw ht :=
    List.forall_mem_singleton.2 (hstars heq found hfound ht hw v List.mem_cons_self)

/-- A comparison with a bound; no star makes a pattern of one. -/
theorem compares_bound {op : Operator} {v : Operand} (hv : v.lexeme.IsProper)
    (hop : op ∈ [.less, .lessEqual, .greater, .greaterEqual]) :
    Test.Compares schema root options selector (op, .bare v) := by
  simp only [List.mem_cons, List.not_mem_nil, or_false] at hop
  rcases hop with rfl | rfl | rfl | rfl
  all_goals
    exact compares_bare hv (by decide) (by decide) (by decide) (by simp)

theorem compares_each {op : Operator} {values : List Operand}
    (h : ∀ o ∈ values, o.lexeme.IsProper) (hop : op = .equal ∨ op = .notEqual)
    (hstars : HasNoStars schema root options selector values) :
    ∀ t ∈ Test.each op values, t.Compares schema root options selector := by
  have hkind : op.arity ≠ .pair ∧ op.isNullCheck = false ∧ op.isPattern = false := by
    rcases hop with rfl | rfl <;> decide
  refine List.forall_mem_map.2 fun v hv => ?_
  apply compares_bare (h v hv) hkind.1 hkind.2.1 hkind.2.2
  intro _ found hfound ht hw
  exact List.forall_mem_singleton.2 (hstars found hfound ht hw v hv)

theorem compares_list {op : Operator} {first : Operand} {others : List Operand}
    (h : ∀ o ∈ first :: others, o.lexeme.IsProper) (hop : op.arity ≠ .single)
    (hpair : op.arity = .pair → others.length = 1) :
    Test.Compares schema root options selector (op, .list first others) where
  suits := ⟨hop, hpair⟩
  proper := by
    rw [Arguments.lexemes_list, List.cons_append, List.forall_mem_cons, List.forall_mem_append]
    exact ⟨trivial, Arguments.isProper_valueRoles h, List.forall_mem_singleton.2 trivial⟩
  noNullCheck := by cases op <;> first | rfl | exact absurd rfl hop
  noPattern := by cases op <;> first | rfl | exact absurd rfl hop
  noWildcard _ _ heq := by rcases heq with rfl | rfl <;> exact absurd rfl hop

/-- The conditions of comparisons with one operator and one value each. -/
theorem gives_each {op : Operator} {vs : List Operand} {ws : List Value} {ds : List Condition}
    {found : Resolution} {foldCase : Bool} (hfound : resolve schema root selector = .ok found)
    (hfold : Placed.folds options found op = foldCase)
    (hread : AreReadAs found.type foldCase vs ws)
    (h : List.Forall₂ (Test.Gives schema root options selector) (Test.each op vs) ds) :
    ds = ws.map fun w => (found.subject selector foldCase).condition op [w] := by
  induction hread generalizing ds with
  | nil =>
    cases h
    rfl
  | cons hv _ ih =>
    cases h with
    | cons hd hds =>
      have hhead := hd.eq_condition hfound hfold (.cons hv .nil)
      rw [List.map_cons, ← hhead, ih hds]

/-- The conditions of two comparisons. -/
theorem gives_two {t₁ t₂ : Test} {ds : List Condition} {found : Resolution} {foldCase : Bool}
    {vs ws : List Value} (hfound : resolve schema root selector = .ok found)
    (h : List.Forall₂ (Test.Gives schema root options selector) [t₁, t₂] ds)
    (h₁ : Placed.folds options found t₁.1 = foldCase)
    (h₂ : Placed.folds options found t₂.1 = foldCase)
    (hvs : AreReadAs found.type foldCase t₁.2.operands vs)
    (hws : AreReadAs found.type foldCase t₂.2.operands ws) :
    ds = [(found.subject selector foldCase).condition t₁.1 vs,
      (found.subject selector foldCase).condition t₂.1 ws] := by
  cases h with
  | cons hd hds =>
    cases hds with
    | cons he hnil =>
      cases hnil
      rw [hd.eq_condition hfound h₁ hvs, he.eq_condition hfound h₂ hws]

end Compile

section Laws

variable [PatternSize] {schema : Schema} {root : String} {options : Options} {selector : String}

theorem desugars_oneOf (hs : IsSelector selector) {first : Operand} {others : List Operand}
    (hproper : ∀ o ∈ first :: others, o.lexeme.IsProper)
    (hstars : HasNoStars schema root options selector (first :: others)) :
    Desugars schema root options selector (.oneOf, .list first others) .or
      (Test.each .equal (first :: others)) := by
  apply desugars_or hs (by simp [Test.each])
  · exact compares_list hproper (by decide) nofun
  · exact compares_each hproper (.inl rfl) hstars
  · rintro _ ds ⟨found, values, hfound, hread, rfl⟩ hds actual
    have hds : ds = values.map fun v =>
        (found.subject selector (Placed.folds options found .oneOf)).condition .equal [v] :=
      gives_each hfound rfl hread hds
    rw [hds, List.any_map]
    exact Subject.holdsFor_oneOf _ actual values

theorem desugars_noneOf (hs : IsSelector selector)
    (hflat : (AttributePath.parse selector).relations = []) {first : Operand}
    {others : List Operand} (hproper : ∀ o ∈ first :: others, o.lexeme.IsProper)
    (hstars : HasNoStars schema root options selector (first :: others)) :
    Desugars schema root options selector (.noneOf, .list first others) .and
      (Test.each .notEqual (first :: others)) := by
  apply desugars_and hs (by simp [Test.each]) hflat
  · exact compares_list hproper (by decide) nofun
  · exact compares_each hproper (.inr rfl) hstars
  · rintro _ ds ⟨found, values, hfound, hread, rfl⟩ hds actual
    have hds : ds = values.map fun v =>
        (found.subject selector (Placed.folds options found .noneOf)).condition .notEqual [v] :=
      gives_each hfound rfl hread hds
    rw [hds, List.all_map]
    have hne : values ≠ [] := by
      rintro rfl
      cases hread
    exact Subject.holdsFor_noneOf _ actual hne

theorem desugars_notBetween (hs : IsSelector selector) {low high : Operand}
    (hl : low.lexeme.IsProper) (hh : high.lexeme.IsProper) :
    Desugars schema root options selector (.notBetween, .list low [high]) .or
      [(.less, .bare low), (.greater, .bare high)] := by
  apply desugars_or hs (List.cons_ne_nil _ _)
  · exact compares_list (by simp [hl, hh]) (by decide) fun _ => rfl
  · exact List.forall_mem_cons.2 ⟨compares_bound hl (by decide),
      List.forall_mem_singleton.2 (compares_bound hh (by decide))⟩
  · rintro _ ds ⟨found, values, hfound, hread, rfl⟩ hds actual
    have hvalues := hread.isReadAs
    obtain ⟨v, w, rfl, hv, hw⟩ := hread.pair
    rw [gives_two hfound hds rfl rfl hv hw, List.any_cons, List.any_cons, List.any_nil,
      Bool.or_false]
    exact Subject.holdsFor_notBetween _ actual (hvalues v (by simp)) (hvalues w (by simp))

theorem desugars_between (hs : IsSelector selector)
    (hflat : (AttributePath.parse selector).relations = []) {low high : Operand}
    (hl : low.lexeme.IsProper) (hh : high.lexeme.IsProper) :
    Desugars schema root options selector (.between, .list low [high]) .and
      [(.greaterEqual, .bare low), (.lessEqual, .bare high)] := by
  apply desugars_and hs (List.cons_ne_nil _ _) hflat
  · exact compares_list (by simp [hl, hh]) (by decide) fun _ => rfl
  · exact List.forall_mem_cons.2 ⟨compares_bound hl (by decide),
      List.forall_mem_singleton.2 (compares_bound hh (by decide))⟩
  · rintro _ ds ⟨found, values, hfound, hread, rfl⟩ hds actual
    obtain ⟨v, w, rfl, hv, hw⟩ := hread.pair
    rw [gives_two hfound hds rfl rfl hv hw, List.all_cons, List.all_cons, List.all_nil,
      Bool.and_true]
    exact Subject.holdsFor_between _ actual v w

/-- A comparison with one value and two alternatives with the same value, where case matters. -/
theorem desugars_alternatives (hs : IsSelector selector) {v : Operand} {op op₁ op₂ : Operator}
    (hcase : IsCaseSensitive schema root options selector)
    (h : Test.Compares schema root options selector (op, .bare v))
    (h₁ : Test.Compares schema root options selector (op₁, .bare v))
    (h₂ : Test.Compares schema root options selector (op₂, .bare v))
    (hholds : ∀ (s : Subject) (actual value : Value), (s.condition op [value]).holdsFor actual =
      ((s.condition op₁ [value]).holdsFor actual || (s.condition op₂ [value]).holdsFor actual)) :
    Desugars schema root options selector (op, .bare v) .or [(op₁, .bare v), (op₂, .bare v)] := by
  apply desugars_or hs (List.cons_ne_nil _ _) h
  · exact List.forall_mem_cons.2 ⟨h₁, List.forall_mem_singleton.2 h₂⟩
  · rintro _ ds ⟨found, values, hfound, hread, rfl⟩ hds actual
    have hfolds := hcase.folds hfound
    rw [hfolds] at hread ⊢
    obtain ⟨w, rfl⟩ := AreReadAs.single hread
    rw [gives_two hfound hds (hfolds _) (hfolds _) hread hread, List.any_cons, List.any_cons,
      List.any_nil, Bool.or_false]
    exact hholds _ actual w

/-- Operators that say what simpler ones say together: a list says what alternatives with one value
each say, and where an attribute lies outside of a range it lies below or above it. If case matters,
bounds that are included and inequality are alternatives as well. What lies in a range, or is none of
several values, satisfies several comparisons, which say the same of the attributes of a record, though
not of the attributes of records that are related to it, one of which may satisfy the one comparison
and another one the other. -/
theorem Predicate.desugars (hs : IsSelector selector) {first low high : Operand}
    {others : List Operand} (hproper : ∀ o ∈ first :: others, o.lexeme.IsProper)
    (hl : low.lexeme.IsProper) (hh : high.lexeme.IsProper) :
    (HasNoStars schema root options selector (first :: others) →
      Desugars schema root options selector (.oneOf, .list first others) .or
        (Test.each .equal (first :: others))) ∧
    Desugars schema root options selector (.notBetween, .list low [high]) .or
      [(.less, .bare low), (.greater, .bare high)] ∧
    (IsCaseSensitive schema root options selector →
      HasNoStars schema root options selector [first] →
      Desugars schema root options selector (.greaterEqual, .bare first) .or
        [(.greater, .bare first), (.equal, .bare first)] ∧
      Desugars schema root options selector (.lessEqual, .bare first) .or
        [(.less, .bare first), (.equal, .bare first)] ∧
      Desugars schema root options selector (.notEqual, .bare first) .or
        [(.less, .bare first), (.greater, .bare first)]) ∧
    ((AttributePath.parse selector).relations = [] →
      Desugars schema root options selector (.between, .list low [high]) .and
        [(.greaterEqual, .bare low), (.lessEqual, .bare high)] ∧
      (HasNoStars schema root options selector (first :: others) →
        Desugars schema root options selector (.noneOf, .list first others) .and
          (Test.each .notEqual (first :: others)))) := by
  refine ⟨desugars_oneOf hs hproper, desugars_notBetween hs hl hh, ?_, ?_⟩
  · intro hcase hstars
    have hfirst := hproper first List.mem_cons_self
    have hbound (op : Operator) (hop : op ∈ [.less, .lessEqual, .greater, .greaterEqual]) :
        Test.Compares schema root options selector (op, .bare first) := compares_bound hfirst hop
    have hless := hbound .less (by decide)
    have hgreater := hbound .greater (by decide)
    have hequal : Test.Compares schema root options selector (.equal, .bare first) :=
      compares_bare hfirst (by decide) (by decide) (by decide) fun _ => hstars
    have hnotEqual : Test.Compares schema root options selector (.notEqual, .bare first) :=
      compares_bare hfirst (by decide) (by decide) (by decide) fun _ => hstars
    refine ⟨?_, ?_, ?_⟩
    · exact desugars_alternatives hs hcase (hbound .greaterEqual (by decide)) hgreater
        hequal Subject.holdsFor_greaterEqual
    · exact desugars_alternatives hs hcase (hbound .lessEqual (by decide)) hless hequal
        Subject.holdsFor_lessEqual
    · exact desugars_alternatives hs hcase hnotEqual hless hgreater Subject.holdsFor_notEqual
  · intro hflat
    exact ⟨desugars_between hs hflat hl hh, desugars_noneOf hs hflat hproper⟩

end Laws

theorem Predicate.desugars_integer :
    (ofText "b=nb=(1,5)" smallSchema "T" {}).toBool ∧
      (ofText "b=lt=1,b=gt=5" smallSchema "T" {}).toBool ∧
      Desugars smallSchema "T" {} "b" (.notBetween, .list (.word ['1']) [.word ['5']]) .or
        [(.less, .bare (.word ['1'])), (.greater, .bare (.word ['5']))] ∧
      (ofText "b=out=(1,5)" smallSchema "T" {}).toBool ∧
      (ofText "b!=1;b!=5" smallSchema "T" {}).toBool ∧
      Desugars smallSchema "T" {} "b" (.noneOf, .list (.word ['1']) [.word ['5']]) .and
        (Test.each .notEqual [.word ['1'], .word ['5']]) ∧
      (ofText "b=ge=1" smallSchema "T" {}).toBool ∧
      (ofText "b=gt=1,b==1" smallSchema "T" {}).toBool ∧
      Desugars smallSchema "T" {} "b" (.greaterEqual, .bare (.word ['1'])) .or
        [(.greater, .bare (.word ['1'])), (.equal, .bare (.word ['1']))] := by
  have hs : IsSelector "b" := by
    refine ⟨⟨by decide, List.all_eq_true.1 (by decide)⟩, ?_⟩
    exact List.forall_mem_singleton.2 (by decide)
  have hone : (Operand.word ['1']).lexeme.IsProper := ⟨by decide, List.all_eq_true.1 (by decide)⟩
  have hfive : (Operand.word ['5']).lexeme.IsProper := ⟨by decide, List.all_eq_true.1 (by decide)⟩
  have hproper : ∀ o ∈ [Operand.word ['1'], Operand.word ['5']], o.lexeme.IsProper :=
    List.forall_mem_cons.2 ⟨hone, List.forall_mem_singleton.2 hfive⟩
  have hstars (vs : List Operand) : HasNoStars smallSchema "T" {} "b" vs := by
    rintro _ _ _ ⟨⟩
  have hresolve : resolve smallSchema "T" "b" = .ok ⟨.integer, false, []⟩ := by
    decide +kernel
  have hcase : IsCaseSensitive smallSchema "T" {} "b" := by
    intro found hfound _
    obtain rfl := Except.ok.inj (hresolve.symm.trans hfound)
    exact ⟨rfl, rfl⟩
  obtain ⟨-, hnotBetween, hbounds, hflat⟩ :=
    @desugars _ smallSchema "T" {} "b" hs _ _ _ _ hproper hone hfive
  refine ⟨?_, ?_, hnotBetween, ?_, ?_, (hflat rfl).2 (hstars _), ?_, ?_,
    (hbounds hcase (hstars _)).1⟩
  all_goals
    decide +kernel

end FilterQuery
