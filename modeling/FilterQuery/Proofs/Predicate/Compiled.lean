import FilterQuery.Compilation
import FilterQuery.Proofs.Formula
import FilterQuery.Proofs.Unicode.Lowercase
import FilterQuery.Proofs.Value.Literal
import Mathlib.Data.List.Basic

/-!
# Conditions that comparisons are compiled to

* `Value.IsReadAs` : a value that its literal is read as, of a type and with strings folded or not;
* `IsCondition` : the condition of a comparison, and `Placed.compile_eq_ok_iff`, when there is one;
* `Condition.comparison` : the comparison that the text of a condition writes;
* `Placed.compile_comparison` : it compiles to the same condition again.
-/

set_option autoImplicit false

namespace FilterQuery

variable {schema : Schema} {root : String} {options : Options} {type : ValueType} {foldCase : Bool}

/-! ### Values -/

/-- The value is what its literal is read as. -/
structure Value.IsReadAs (type : ValueType) (foldCase : Bool) (v : Value) : Prop where
  type_eq : v.type? = some type
  finite : ∀ x, v = .decimal x → x.isFinite
  folded : ∀ s, v = .string s → foldCase → Condition.lowercased s = s

theorem Condition.lowercased_lowercased (s : String) : lowercased (lowercased s) = lowercased s := by
  rw [lowercased, lowercased, String.toList_ofList, Unicode.lowercase_lowercase]

theorem LikePattern.ofSource?_eq_some_iff [PatternSize] {source : String} {caseInsensitive : Bool}
    {pattern : LikePattern} : ofSource? source caseInsensitive = some pattern ↔
      patternSize source.toList caseInsensitive ≤ maxPatternSize ∧
        pattern = ⟨source, caseInsensitive⟩ := by
  unfold ofSource?
  split
  · next hsize =>
    rw [Option.some.injEq]
    exact ⟨fun h => ⟨hsize, h.symm⟩, fun h => h.2.symm⟩
  · next hsize => exact ⟨nofun, fun h => absurd h.1 hsize⟩

theorem isFinite_of_readDecimal {cs : List Char} {x : Binary64} (h : readDecimal cs = .ok x) :
    x.isFinite := by
  unfold readDecimal at h
  split at h
  · split at h
    · next hf =>
      cases h
      exact hf
    · cases h
  · cases h

theorem type_finite_of_coerce {literal : String} {v : Value} (h : coerce literal type = .ok v) :
    v.type? = some type ∧ ∀ x, v = .decimal x → x.isFinite := by
  cases type with
  | string =>
    cases h
    exact ⟨rfl, fun x hx => by cases hx⟩
  | decimal =>
    obtain ⟨x, hx, rfl⟩ := map_eq_ok.1 h
    refine ⟨rfl, ?_⟩
    intro y hy
    rw [← Value.decimal.inj hy]
    exact isFinite_of_readDecimal hx
  | integer | date | boolean =>
    obtain ⟨_, -, rfl⟩ := map_eq_ok.1 h
    exact ⟨rfl, fun x hx => by cases hx⟩

/-- A value in lowercase if it is a string and strings are folded. -/
def Value.folded (foldCase : Bool) : Value → Value
  | string s => .string (if foldCase then Condition.lowercased s else s)
  | v => v

theorem Placed.value_eq (argument : String) (span : Span) : value type foldCase argument span =
    ((coerce argument type).map (Value.folded foldCase)).mapError
      (.coercion argument type · span) := by
  unfold value
  cases coerce argument type with
  | error e => rfl
  | ok v => cases v <;> rfl

/-- A value is its argument read, in lowercase if strings are folded. -/
theorem Placed.value_eq_ok {argument : String} {span : Span} {v : Value}
    (h : value type foldCase argument span = .ok v) : ∃ w, coerce argument type = .ok w ∧
      ((∃ s, w = .string s ∧ v = .string (if foldCase then Condition.lowercased s else s)) ∨
        (∀ s, w ≠ .string s) ∧ v = w) := by
  unfold value at h
  split at h
  · next s hs =>
    cases h
    exact ⟨_, hs, .inl ⟨s, rfl, rfl⟩⟩
  · next w hne hw =>
    cases h
    exact ⟨_, hw, .inr ⟨fun s hs => hne s hs, rfl⟩⟩
  · cases h

theorem Placed.isReadAs_of_value {argument : String} {span : Span} {v : Value}
    (h : value type foldCase argument span = .ok v) : v.IsReadAs type foldCase := by
  obtain ⟨w, hw, ⟨s, rfl, rfl⟩ | ⟨hne, rfl⟩⟩ := value_eq_ok h
  · obtain ⟨ht, -⟩ := type_finite_of_coerce hw
    refine ⟨ht, ?_, ?_⟩
    · intro x hx
      cases hx
    · intro t hs hf
      rw [if_pos hf] at hs
      rw [← Value.string.inj hs, Condition.lowercased_lowercased]
  · obtain ⟨ht, hf⟩ := type_finite_of_coerce hw
    exact ⟨ht, hf, fun s hs => absurd hs (hne s)⟩

/-- A star in the literal of a string stands in the argument that it was read from. -/
theorem Placed.star_mem_of_value {argument : String} {span : Span} {v : Value}
    (h : value .string foldCase argument span = .ok v) (hs : star ∈ v.literal) :
    star ∈ argument.toList := by
  obtain ⟨w, hw, ⟨s, rfl, rfl⟩ | ⟨hne, rfl⟩⟩ := value_eq_ok h
  · cases hw
    rw [Value.literal] at hs
    split at hs
    · rw [Condition.lowercased, String.toList_ofList] at hs
      exact Unicode.star_mem_of_lowercase hs
    · exact hs
  · cases hw
    exact absurd rfl (hne argument)

theorem Value.IsReadAs.value {v : Value} (h : v.IsReadAs type foldCase) (span : Span) :
    Placed.value type foldCase (String.ofList v.literal) span = .ok v := by
  rw [Placed.value, coerce_literal h.type_eq h.finite]
  cases v with
  | string s =>
    dsimp only
    split
    · next hf => rw [h.folded s rfl hf]
    · rfl
  | _ => rfl

theorem Value.IsReadAs.agrees {v : Value} (h : v.IsReadAs type foldCase) : v.agrees v := by
  cases v with
  | decimal x =>
    cases x with
    | nan => cases h.finite _ rfl
    | infinite negative => cases h.finite _ rfl
    | finite negative m =>
      simp [Value.agrees, Binary64.order, Binary64.rank, Std.ReflCmp.compare_self]
  | _ => simp [Value.agrees]

theorem exists_argument_of_mem {arguments : List String} {spans : List Span} {values : List Value}
    (h : (arguments.zip spans).map (fun (a, span) => Placed.value type foldCase a span) =
      values.map .ok) {v : Value} (hv : v ∈ values) :
    ∃ a ∈ arguments, ∃ span, Placed.value type foldCase a span = .ok v := by
  have hm : (.ok v : Except CompileError Value) ∈ values.map .ok := List.mem_map_of_mem hv
  rw [← h] at hm
  obtain ⟨⟨a, span⟩, hmem, ha⟩ := List.mem_map.1 hm
  exact ⟨a, (List.of_mem_zip hmem).1, span, ha⟩

theorem map_value_literals {values : List Value} (h : ∀ v ∈ values, v.IsReadAs type foldCase) :
    ∀ {spans : List Span}, spans.length = values.length →
      ((values.map fun v => String.ofList v.literal).zip spans).map
        (fun (a, span) => Placed.value type foldCase a span) = values.map .ok := by
  induction values with
  | nil =>
    intro spans _
    rfl
  | cons v values ih =>
    intro spans hs
    obtain ⟨hv, hvalues⟩ := List.forall_mem_cons.1 h
    obtain ⟨span, spans, rfl⟩ := List.exists_cons_of_length_eq_add_one hs
    have hhead := hv.value span
    have htail := ih hvalues (Nat.succ.inj hs)
    rw [List.map_cons, List.zip_cons_cons, List.map_cons, List.map_cons, htail]
    dsimp only
    rw [hhead]

theorem Condition.valuesAgree_self {values : List Value} (h : ∀ v ∈ values, v.agrees v) :
    Condition.valuesAgree values values := by
  induction values with
  | nil => rfl
  | cons v values ih =>
    obtain ⟨hv, hvalues⟩ := List.forall_mem_cons.1 h
    rw [Condition.valuesAgree, hv, ih hvalues]
    rfl

/-! ### Conditions -/

/-- The condition of a comparison with an operator that its attribute supports. -/
inductive IsCondition [PatternSize] (p : Placed) (op : Operator) (type : ValueType)
    (foldCase : Bool) : Condition → Prop
  | null : op.isNullCheck → IsCondition p op type foldCase
      ⟨.parse p.selector, op, [], type, foldCase, none⟩
  | pattern {source : String} {others : List String} {pattern : LikePattern} :
      op.isNullCheck = false → op.isPattern → p.arguments = source :: others →
      LikePattern.ofSource? source foldCase = some pattern → IsCondition p op type foldCase
        ⟨.parse p.selector, op, [.string source], type, foldCase, some pattern⟩
  | values {values : List Value} : op.isNullCheck = false → op.isPattern = false →
      (p.arguments.zip p.argumentSpans).map (fun (a, span) => Placed.value type foldCase a span) =
        values.map .ok → IsCondition p op type foldCase
          ⟨.parse p.selector, op, values, type, foldCase, none⟩

namespace Placed

theorem condition_eq_ok_iff [PatternSize] {p : Placed} {op : Operator} {c : Condition} :
    p.condition op type foldCase = .ok c ↔ IsCondition p op type foldCase c := by
  constructor
  · intro h
    unfold condition at h
    dsimp only at h
    split at h
    · next hnull =>
      cases h
      exact .null hnull
    · next hnull =>
      rw [Bool.not_eq_true] at hnull
      split at h
      · next hpattern =>
        split at h
        · cases h
        · next source others harguments =>
          split at h
          · next pattern hof =>
            cases h
            exact .pattern hnull hpattern harguments hof
          · cases h
      · next hpattern =>
        rw [Bool.not_eq_true] at hpattern
        cases hv : (p.arguments.zip p.argumentSpans).mapM fun (a, span) =>
            value type foldCase a span with
        | error e =>
          rw [hv] at h
          cases h
        | ok values =>
          rw [hv] at h
          cases h
          exact .values hnull hpattern (mapM_eq_ok.1 hv)
  · intro h
    unfold condition
    cases h with
    | null hnull => rw [if_pos hnull]
    | pattern hnull hpattern harguments hof =>
      rw [if_neg (by simp [hnull]), if_pos hpattern, harguments]
      dsimp only
      rw [hof]
    | values hnull hpattern hvalues =>
      rw [if_neg (by simp [hnull]), if_neg (by simp [hpattern]), mapM_eq_ok.2 hvalues]
      rfl

/-- Whether strings are folded in comparisons with an attribute. -/
def folds (options : Options) (found : Resolution) (op : Operator) : Bool :=
  found.type = .string && op.foldsCase && (found.caseInsensitive || options.caseInsensitiveStrings)

theorem compile_eq_ok_iff [PatternSize] {p : Placed} {c : Condition} :
    p.compile schema root options = .ok c ↔ ∃ found, resolve schema root p.selector = .ok found ∧
      (p.effectiveOperator options found.type).supports found.type ∧
      IsCondition p (p.effectiveOperator options found.type) found.type
        (folds options found (p.effectiveOperator options found.type)) c := by
  unfold compile
  cases resolve schema root p.selector with
  | error e => simp
  | ok found =>
    dsimp only
    constructor
    · intro h
      split at h
      · next hs => exact ⟨found, rfl, hs, condition_eq_ok_iff.1 h⟩
      · cases h
    · rintro ⟨_, hfound, hs, hc⟩
      cases hfound
      rw [if_pos hs]
      exact condition_eq_ok_iff.2 hc

end Placed

/-! ### Operators that stay as they are -/

namespace Placed

variable {p : Placed}

/-- No star makes a pattern of the arguments of an equality. -/
def HasNoWildcard (options : Options) (type : ValueType) (op : Operator)
    (arguments : List String) : Prop :=
  op = .equal ∨ op = .notEqual → options.wildcardEquality → type = .string →
    ∀ a ∈ arguments, star ∉ a.toList

theorem effectiveOperator_of_hasNoWildcard
    (h : HasNoWildcard options type p.operator p.arguments) :
    p.effectiveOperator options type = p.operator := by
  have hany (hop : p.operator = .equal ∨ p.operator = .notEqual) :
      (options.wildcardEquality && type = .string &&
        p.arguments.any fun a => star ∈ a.toList) = false := by
    by_contra hc
    simp only [Bool.not_eq_false, Bool.and_eq_true, decide_eq_true_eq, List.any_eq_true] at hc
    obtain ⟨⟨hw, ht⟩, a, ha, hs⟩ := hc
    exact h hop hw ht a ha hs
  unfold effectiveOperator
  dsimp only
  split
  · next hop => rw [hany (.inl hop), if_neg Bool.false_ne_true, hop]
  · next hop => rw [hany (.inr hop), if_neg Bool.false_ne_true, hop]
  · rfl

theorem hasNoWildcard_effectiveOperator :
    HasNoWildcard options type (p.effectiveOperator options type) p.arguments := by
  intro hop hw ht a ha hs
  have hany : (options.wildcardEquality && type = .string &&
      p.arguments.any fun a => star ∈ a.toList) = true := by
    simp only [Bool.and_eq_true, decide_eq_true_eq, List.any_eq_true]
    exact ⟨⟨hw, ht⟩, a, ha, hs⟩
  unfold effectiveOperator at hop
  dsimp only at hop
  rw [hany] at hop
  split at hop
  · simp at hop
  · simp at hop
  · next hne hne' => exact hop.elim hne hne'

theorem arity_effectiveOperator : (p.effectiveOperator options type).arity = p.operator.arity := by
  unfold effectiveOperator
  dsimp only
  split
  · next hop =>
    rw [hop]
    split <;> rfl
  · next hop =>
    rw [hop]
    split <;> rfl
  · rfl

end Placed

/-! ### The comparison that the text of a condition writes -/

namespace Condition

/-- The arguments that the text of a condition shows. -/
def literals (c : Condition) : List String :=
  if c.operator.isNullCheck then ["true"]
  else match c.pattern with
    | some p => [p.source]
    | none => c.values.map fun v => String.ofList v.literal

/-- The comparison that the text of a condition writes. -/
def comparison (c : Condition) : Comparison :=
  ⟨String.ofList c.path.text, c.operator, c.literals⟩

end Condition

theorem AttributePath.text_parse (selector : String) :
    (parse selector).text = selector.toList := by
  have hmap : ((selector.toList.splitOn '.').map String.ofList).map String.toList =
      selector.toList.splitOn '.' := by
    rw [List.map_map]
    exact List.map_id'' (fun cs => String.toList_ofList) _
  rw [text, parse, splitAt, hmap, List.intercalate_splitOn]

section Conditions

variable [PatternSize] {p : Placed} {op : Operator} {c : Condition}

theorem IsCondition.operator (h : IsCondition p op type foldCase c) : c.operator = op := by
  cases h <;> rfl

theorem IsCondition.path (h : IsCondition p op type foldCase c) : c.path = .parse p.selector := by
  cases h <;> rfl

theorem IsCondition.selector (h : IsCondition p op type foldCase c) :
    String.ofList c.path.text = p.selector := by
  rw [h.path, AttributePath.text_parse, String.ofList_toList]

/-- The comparison that the text of a condition writes has the same condition. -/
theorem IsCondition.of_comparison {p' : Placed} (h : IsCondition p op type foldCase c)
    (heq : p'.toComparison = c.comparison)
    (hs : p'.argumentSpans.length = p'.arguments.length) :
    IsCondition p' op type foldCase c := by
  have hselector : p'.selector = p.selector :=
    (congrArg Comparison.selector heq).trans h.selector
  have harguments : p'.arguments = c.literals := congrArg Comparison.arguments heq
  cases h with
  | null hnull =>
    rw [← hselector]
    exact .null hnull
  | @pattern source _ pattern hnull hpattern _ hof =>
    obtain ⟨-, rfl⟩ := LikePattern.ofSource?_eq_some_iff.1 hof
    rw [Condition.literals, if_neg (by simp [hnull])] at harguments
    dsimp only at harguments
    rw [← hselector]
    exact .pattern hnull hpattern harguments hof
  | @values values hnull hpattern hvalues =>
    rw [Condition.literals, if_neg (by simp [hnull])] at harguments
    dsimp only at harguments
    have hread : ∀ v ∈ values, v.IsReadAs type foldCase := by
      intro v hv
      obtain ⟨a, -, span, ha⟩ := exists_argument_of_mem hvalues hv
      exact Placed.isReadAs_of_value ha
    have hlength : p'.argumentSpans.length = values.length := by
      rw [hs, harguments, List.length_map]
    rw [← hselector]
    apply IsCondition.values hnull hpattern
    rw [harguments]
    exact map_value_literals hread hlength

/-- The literals of a condition make no pattern of an equality. -/
theorem IsCondition.hasNoWildcard (h : IsCondition p op type foldCase c)
    (hp : Placed.HasNoWildcard options type op p.arguments) :
    Placed.HasNoWildcard options type op c.literals := by
  intro hop hw ht a ha
  have hop' : op.isNullCheck = false ∧ op.isPattern = false := by
    rcases hop with rfl | rfl <;> exact ⟨rfl, rfl⟩
  cases h with
  | null hnull => exact absurd hnull (by simp [hop'.1])
  | pattern _ hpattern _ _ => exact absurd hpattern (by simp [hop'.2])
  | values _ _ hvalues =>
    rw [Condition.literals, if_neg (by simp [hop'.1])] at ha
    obtain ⟨v, hv, rfl⟩ := List.mem_map.1 ha
    obtain ⟨b, hb, span, hval⟩ := exists_argument_of_mem hvalues hv
    subst ht
    rw [String.toList_ofList]
    intro hs
    have hstar : star ∈ b.toList := Placed.star_mem_of_value hval hs
    exact hp hop hw rfl b hb hstar

/-- The comparison that the text of a condition writes compiles to that condition. -/
theorem Placed.compile_comparison {p' : Placed} (h : p.compile schema root options = .ok c)
    (heq : p'.toComparison = c.comparison) (hs : p'.argumentSpans.length = p'.arguments.length) :
    p'.compile schema root options = .ok c := by
  obtain ⟨found, hfound, hsupports, hc⟩ := compile_eq_ok_iff.1 h
  have hop : p'.operator = p.effectiveOperator options found.type :=
    (congrArg Comparison.operator heq).trans hc.operator
  have heff : p'.effectiveOperator options found.type = p.effectiveOperator options found.type := by
    rw [effectiveOperator_of_hasNoWildcard, hop]
    rw [hop, congrArg Comparison.arguments heq]
    exact hc.hasNoWildcard hasNoWildcard_effectiveOperator
  have hselector : p'.selector = p.selector :=
    (congrArg Comparison.selector heq).trans hc.selector
  rw [compile_eq_ok_iff, hselector]
  refine ⟨found, hfound, ?_⟩
  rw [heff]
  exact ⟨hsupports, hc.of_comparison heq hs⟩

/-- The condition of a comparison is equal to itself; it holds no number that is none. -/
theorem IsCondition.agrees (h : IsCondition p op type foldCase c) : c.agrees c := by
  have hvalues : ∀ v ∈ c.values, v.agrees v := by
    cases h with
    | null => exact List.forall_mem_nil _
    | pattern => exact List.forall_mem_singleton.2 (by simp [Value.agrees])
    | values _ _ hvalues =>
      intro v hv
      obtain ⟨_, -, _, ha⟩ := exists_argument_of_mem hvalues hv
      exact (Placed.isReadAs_of_value ha).agrees
  simp [Condition.agrees, Condition.valuesAgree_self hvalues]

end Conditions
end FilterQuery
