import FilterQuery.Proofs.Predicate.Comparable
import FilterQuery.Proofs.Predicate.Places
import FilterQuery.Proofs.Predicate.Textual
import FilterQuery.Proofs.Predicate.WellFormed
import FilterQuery.Proofs.Unicode.Ascii

/-!
# Comparisons in which case does not count

A comparison on a string in which case does not count tells no values apart that differ only in the case of
letters in ASCII, and is itself not told apart from one whose arguments differ in nothing else. This holds
for the values that are compared in lowercase and for the patterns that are compared by folding.

* `Value.AsciiAlike`, `Placed.AsciiAlike` : values and comparisons that differ in nothing else;
* `LikePattern.accepts_of_asciiAlike`, `Condition.holdsFor_of_pattern` : patterns;
* `Placed.values_of_asciiAlike` : the values are even the same;
* `Placed.ignores_ascii_case` : both for whatever a comparison is compiled to.
-/

set_option autoImplicit false

namespace FilterQuery

/-! ### Values -/

/-- The same value, or a string that differs only in the case of letters in ASCII. -/
inductive Value.AsciiAlike : Value → Value → Prop
  | string {s t : String} : Unicode.AsciiAlike s.toList t.toList → AsciiAlike (.string s) (.string t)
  | same {v : Value} : AsciiAlike v v

theorem lowercased_of_asciiAlike {s t : String} (h : Unicode.AsciiAlike s.toList t.toList) :
    Condition.lowercased s = Condition.lowercased t :=
  congrArg String.ofList (Unicode.lowercase_of_asciiAlike h)

namespace Value.AsciiAlike

variable {v w : Value}

theorem isNull_eq (h : v.AsciiAlike w) : v.isNull = w.isNull := by
  cases h <;> rfl

theorem folded_eq (h : v.AsciiAlike w) : v.folded true = w.folded true := by
  cases h with
  | string h => exact congrArg Value.string (lowercased_of_asciiAlike h)
  | same => rfl

end Value.AsciiAlike

/-! ### Patterns -/

/-- Patterns and texts that are folded alike match alike. -/
theorem LikePattern.accepts_of_asciiAlike {p q : LikePattern} {s t : List Char}
    (hp : p.caseInsensitive) (hq : q.caseInsensitive)
    (hsource : Unicode.AsciiAlike p.source.toList q.source.toList) (h : Unicode.AsciiAlike s t) :
    p.accepts s = q.accepts t := by
  rw [accepts, accepts, view, view, view, view, if_pos hp, if_pos hp, if_pos hq, if_pos hq,
    Unicode.map_fold_of_asciiAlike hsource, Unicode.map_fold_of_asciiAlike h]

namespace Condition

variable {c d : Condition} {v w : Value}

theorem isLike_of_asciiAlike {p q : LikePattern} (hc : c.pattern = some p) (hd : d.pattern = some q)
    (hp : p.caseInsensitive) (hq : q.caseInsensitive)
    (hsource : Unicode.AsciiAlike p.source.toList q.source.toList) (h : v.AsciiAlike w) :
    c.isLike v = d.isLike w := by
  have haccepts {s t : List Char} (hst : Unicode.AsciiAlike s t) : p.accepts s = q.accepts t :=
    LikePattern.accepts_of_asciiAlike hp hq hsource hst
  unfold isLike
  rw [hc, hd]
  cases h with
  | string h => exact haccepts h
  | @same v => cases v <;> exact haccepts rfl

/-- A condition with a pattern asks for nothing but the pattern. -/
theorem holdsFor_of_pattern (hpattern : c.operator.isPattern) (hop : d.operator = c.operator)
    (hnull : v.isNull = w.isNull) (hlike : c.isLike v = d.isLike w) :
    d.holdsFor w = c.holdsFor v := by
  unfold holdsFor holdsForValue
  rw [hop, hnull]
  rcases Operator.isPattern_iff.1 hpattern with hc | hc <;> rw [hc, hlike]

/-- A condition that compares strings in lowercase does not tell the values apart. -/
theorem holdsFor_of_asciiAlike (hfold : c.foldCase) (hpattern : c.pattern = none)
    (h : v.AsciiAlike w) : c.holdsFor w = c.holdsFor v := by
  have horder (x : Value) : c.order w x = c.order v x := by
    rw [c.order_eq, c.order_eq, hfold, h.folded_eq]
  have hlike : c.isLike w = c.isLike v := by
    unfold isLike
    rw [hpattern]
  rw [holdsFor, holdsFor, h.isNull_eq, holdsForValue_congr (fun x _ => horder x) hlike]

end Condition

/-! ### Comparisons -/

namespace Placed

/-- The comparisons have the same selector and operator, and arguments that differ only in the case of
letters in ASCII, with as many places for them. -/
structure AsciiAlike (a b : Placed) : Prop where
  selector : b.selector = a.selector
  operator : b.operator = a.operator
  arguments : List.Forall₂ (fun s t => Unicode.AsciiAlike s.toList t.toList) a.arguments b.arguments
  spans : b.argumentSpans.length = a.argumentSpans.length

variable {schema : Schema} {root : String} {options : Options} {a b : Placed}

theorem effectiveOperator_of_asciiAlike (h : a.AsciiAlike b) (type : ValueType) :
    b.effectiveOperator options type = a.effectiveOperator options type := by
  have hstar : (b.arguments.any fun s => star ∈ s.toList) =
      a.arguments.any fun s => star ∈ s.toList := by
    have harguments := h.arguments
    generalize a.arguments = ss at harguments
    generalize b.arguments = ts at harguments
    induction harguments with
    | nil => rfl
    | cons hst _ ih => simp only [List.any_cons, ih, Unicode.star_mem_of_asciiAlike hst]
  unfold effectiveOperator
  rw [h.operator, hstar]

theorem foldsCase_effectiveOperator (h : a.operator.foldsCase) (type : ValueType) :
    (a.effectiveOperator options type).foldsCase := by
  unfold effectiveOperator
  dsimp only
  split
  · split <;> rfl
  · split <;> rfl
  · exact h

/-- The values that the arguments are read as are the same in lowercase. -/
theorem values_of_asciiAlike (h : a.AsciiAlike b) :
    (b.arguments.zip b.argumentSpans).map (fun (s, span) => value .string true s span) =
      (a.arguments.zip a.argumentSpans).map fun (s, span) => value .string true s span := by
  have htake (p : Placed) :
      (p.arguments.zip p.argumentSpans).map (fun (s, span) => value .string true s span) =
        ((p.arguments.map Condition.lowercased).take p.argumentSpans.length).map fun s =>
          .ok (.string s) := by
    rw [← List.map_take, ← map_fst_zip_eq_take, List.map_map, List.map_map]
    rfl
  have hlower : b.arguments.map Condition.lowercased = a.arguments.map Condition.lowercased := by
    have harguments := h.arguments
    generalize a.arguments = ss at harguments
    generalize b.arguments = ts at harguments
    induction harguments with
    | nil => rfl
    | cons hst _ ih => rw [List.map_cons, List.map_cons, ih, lowercased_of_asciiAlike hst]
  rw [htake, htake, h.spans, hlower]

/-- For the same operator, folding case, either comparison has a condition if the other has one, and the
conditions do not tell values apart that differ only in the case of letters in ASCII. -/
theorem exists_isCondition_of_asciiAlike [PatternSize] [LawfulPatternSize] {op : Operator}
    {c : Condition} (hfolds : op.foldsCase) (h : a.AsciiAlike b) (hc : IsCondition a op .string true c) :
    ∃ d, IsCondition b op .string true d ∧
      ∀ v w : Value, v.AsciiAlike w → d.holdsFor w = c.holdsFor v := by
  cases hc with
  | null hnull => exact absurd (hnull.symm.trans (Operator.isNullCheck_of_foldsCase hfolds)) (by decide)
  | @pattern source others pattern hnull hpattern harguments hof =>
    have hlist := h.arguments
    rw [harguments] at hlist
    obtain ⟨source', others', hsource, -, harguments'⟩ := List.forall₂_cons_left_iff.1 hlist
    obtain ⟨hsize, rfl⟩ := LikePattern.ofSource?_eq_some_iff.1 hof
    rw [LawfulPatternSize.patternSize_of_asciiAlike hsource] at hsize
    have hof' : LikePattern.ofSource? source' true = some ⟨source', true⟩ :=
      LikePattern.ofSource?_eq_some_iff.2 ⟨hsize, rfl⟩
    refine ⟨_, .pattern hnull hpattern harguments' hof', ?_⟩
    intro v w hvw
    have hlike := Condition.isLike_of_asciiAlike (c := ⟨.parse a.selector, op, [.string source], .string,
      true, some ⟨source, true⟩⟩) (d := ⟨.parse b.selector, op, [.string source'], .string, true,
      some ⟨source', true⟩⟩) rfl rfl rfl rfl hsource hvw
    exact Condition.holdsFor_of_pattern hpattern rfl hvw.isNull_eq hlike
  | @values values hnull hpattern hvalues =>
    refine ⟨_, .values hnull hpattern ((values_of_asciiAlike h).trans hvalues), ?_⟩
    intro v w hvw
    rw [h.selector]
    exact Condition.holdsFor_of_asciiAlike rfl rfl hvw

/-- What a comparison in which case does not count is compiled to does not depend on the case of letters in
ASCII, neither in its arguments nor in the values that it is asked about. -/
theorem ignores_ascii_case [PatternSize] [LawfulPatternSize] {found : Resolution} {c : Condition}
    (hfound : resolve schema root a.selector = .ok found) (htype : found.type = .string)
    (hcase : found.caseInsensitive ∨ options.caseInsensitiveStrings)
    (hop : a.operator ∈ [.equal, .notEqual, .oneOf, .noneOf, .like, .notLike])
    (hc : a.compile schema root options = .ok c) (h : a.AsciiAlike b) :
    ∃ d, b.compile schema root options = .ok d ∧
      ∀ v w : Value, v.AsciiAlike w → d.holdsFor w = c.holdsFor v := by
  obtain ⟨_, hfound', hsupports, hcondition⟩ := compile_eq_ok_iff.1 hc
  cases hfound.symm.trans hfound'
  have heffective : b.effectiveOperator options found.type = a.effectiveOperator options found.type :=
    effectiveOperator_of_asciiAlike h found.type
  have hfamily : (a.effectiveOperator options found.type).foldsCase := by
    apply foldsCase_effectiveOperator
    revert hop
    cases a.operator <;> decide
  have hfolds : folds options found (a.effectiveOperator options found.type) := by
    rw [folds, hfamily, decide_eq_true htype]
    exact Bool.or_eq_true_iff.2 hcase
  rw [hfolds, htype] at hcondition
  obtain ⟨d, hd, hsame⟩ := exists_isCondition_of_asciiAlike (htype ▸ hfamily) h hcondition
  refine ⟨d, compile_eq_ok_iff.2 ⟨found, by rw [h.selector, hfound], ?_, ?_⟩, hsame⟩
  · rw [heffective]
    exact hsupports
  · rw [heffective, hfolds, htype]
    exact hd

/-- The comparison of `a` with a string for equality. -/
def equalTo (s : String) : Placed := ⟨⟨"a", .equal, [s]⟩, ⟨0, 1⟩, ⟨1, 2⟩, [⟨3, 2⟩]⟩

/-- The letter before a sigma makes it a final one in either case. -/
theorem ignores_ascii_case_sigma : ∃ c d,
    (equalTo "kΣ").compile Predicate.smallSchema "T" ⟨false, true⟩ = .ok c ∧
      (equalTo "KΣ").compile Predicate.smallSchema "T" ⟨false, true⟩ = .ok d ∧
      c.holdsFor (.string "Kς") ∧ d.holdsFor (.string "kς") := by
  let c : Condition := ⟨.parse "a", .equal, [.string "kς"], .string, true, none⟩
  have hresolve : resolve Predicate.smallSchema "T" "a" = .ok ⟨.string, false, []⟩ := by
    decide +kernel
  have hc : (equalTo "kΣ").compile Predicate.smallSchema "T" ⟨false, true⟩ = .ok c := by
    decide +kernel
  have halike : (equalTo "kΣ").AsciiAlike (equalTo "KΣ") :=
    ⟨rfl, rfl, .cons (by decide) .nil, rfl⟩
  have hvalues : (Value.string "Kς").AsciiAlike (.string "kς") := .string (by decide)
  obtain ⟨d, hd, hsame⟩ := ignores_ascii_case hresolve rfl (.inr rfl) (by decide) hc halike
  have hholds : c.holdsFor (.string "Kς") := by decide +kernel
  exact ⟨c, d, hc, hd, hholds, (hsame _ _ hvalues).trans hholds⟩

end Placed
end FilterQuery
