import FilterQuery.Proofs.LikePattern
import FilterQuery.Proofs.Predicate.Comparable
import FilterQuery.Proofs.Predicate.Meaning
import FilterQuery.Proofs.Predicate.Options
import FilterQuery.Proofs.Predicate.Rendering

/-!
# Equality and patterns

A string that equals the argument of an equality matches the pattern that the argument writes, if case
counts. Otherwise equality compares the lowercase of both and the pattern their folded characters, so
that the few characters whose lowercase is not folded alike have to be at the same places in both.

* `Value.SameUnfolded` : what has to hold of the characters of a value;
* `LikePattern.accepts_of_order` : a value that equals the source of a pattern matches it;
* `Placed.exists_like` : what a comparison is compiled to with a pattern in place of an equality;
* `Query.patterns_include_equality` : the same for a query, with patterns for its equalities with a star.
-/

set_option autoImplicit false

namespace FilterQuery

/-! ### One value -/

namespace Value

/-- If case does not count, a value that is a string has the characters whose lowercase is not folded
alike where the literal has them. -/
def SameUnfolded (foldCase : Bool) (literal : String) (actual : Value) : Prop :=
  foldCase → ∀ s, actual = .string s → Unicode.SameUnfolded s.toList literal.toList

/-- The characters of a string, or the text of another value. -/
def characters : Value → List Char
  | string s => s.toList
  | v => v.text

/-- A value equals a string if these are its characters. -/
theorem characters_of_order {v : Value} {t : String} (h : v.order (string t) = some .eq) :
    v.characters = t.toList := by
  cases v with
  | string s =>
    have heq : s = t := Std.LawfulEqCmp.eq_of_compare (Option.some.inj h)
    rw [heq]
    rfl
  | null => cases h
  | integer | decimal | date | boolean =>
    have heq := Std.LawfulEqCmp.eq_of_compare (Option.some.inj h)
    rw [← heq, String.toList_ofList]
    rfl

theorem characters_of_ne_string {v : Value} (hv : ∀ s, v ≠ string s) : v.characters = v.text := by
  cases v with
  | string s => exact absurd rfl (hv s)
  | integer | decimal | date | boolean | null => rfl

theorem folded_of_ne_string {v : Value} (hv : ∀ s, v ≠ string s) (foldCase : Bool) :
    v.folded foldCase = v := by
  cases v with
  | string s => exact absurd rfl (hv s)
  | integer | decimal | date | boolean | null => rfl

end Value

/-- The characters of a value that equals a literal are folded as those of the literal. -/
theorem map_fold_of_order {actual : Value} {literal : String}
    (hsame : actual.SameUnfolded true literal)
    (h : (actual.folded true).order (.string (Condition.lowercased literal)) = some .eq) :
    actual.characters.map Unicode.fold = literal.toList.map Unicode.fold := by
  have hcharacters := Value.characters_of_order h
  rw [Condition.lowercased, String.toList_ofList] at hcharacters
  by_cases hv : ∃ s, actual = .string s
  · obtain ⟨s, rfl⟩ := hv
    have hlowercase : Unicode.lowercase s.toList = Unicode.lowercase literal.toList := by
      rw [← hcharacters]
      exact (String.toList_ofList ..).symm
    exact Unicode.map_fold_of_lowercase (hsame rfl s rfl) hlowercase
  · have hv := not_exists.1 hv
    rw [Value.folded_of_ne_string hv, Value.characters_of_ne_string hv] at hcharacters
    rw [Value.characters_of_ne_string hv, hcharacters]
    apply Unicode.map_fold_lowercase
    intro c hc
    rw [← hcharacters] at hc
    exact Value.toNat_lt_of_mem_text hv hc

namespace LikePattern

/-- A value that equals the source of a pattern matches it. -/
theorem accepts_of_order (p : LikePattern) {actual : Value}
    (hsame : actual.SameUnfolded p.caseInsensitive p.source)
    (h : (actual.folded p.caseInsensitive).order
      ((Value.string p.source).folded p.caseInsensitive) = some .eq) :
    p.accepts actual.characters := by
  apply p.accepts_of_view_eq
  unfold view
  cases hcase : p.caseInsensitive with
  | true =>
    rw [hcase] at hsame h
    exact map_fold_of_order hsame h
  | false =>
    rw [hcase] at h
    have hactual : actual.folded false = actual := by cases actual <;> rfl
    rw [hactual] at h
    exact Value.characters_of_order h

end LikePattern

/-! ### One comparison -/

namespace Condition

variable {c : Condition} {actual : Value}

/-- An equality holds for the values that stand equal to its argument. -/
theorem order_of_holdsFor (hop : c.operator = .equal) (h : c.holdsFor actual) :
    actual.isNull = false ∧ ∃ v, c.values.head? = some v ∧ c.order actual v = some .eq := by
  unfold holdsFor at h
  split at h
  · rw [hop] at h
    cases h
  · next hnull =>
    simp only [holdsForValue, hop, decide_eq_true_eq] at h
    exact ⟨Bool.not_eq_true _ ▸ hnull, Option.bind_eq_some_iff.1 h⟩

theorem holdsFor_like {pattern : LikePattern} (hop : c.operator = .like)
    (hpattern : c.pattern = some pattern) (hnull : actual.isNull = false) :
    c.holdsFor actual = pattern.accepts actual.characters := by
  rw [holdsFor, hnull, if_neg Bool.false_ne_true, holdsForValue, hop]
  dsimp only
  unfold isLike
  rw [hpattern]
  cases actual <;> rfl

end Condition

namespace Placed

variable {schema : Schema} {root : String} {caseInsensitive : Bool} {a b : Placed}

/-- The first value is that of the first argument. -/
theorem exists_span_of_head? {type : ValueType} {foldCase : Bool} {literal : String}
    {others : List String} {spans : List Span} {values : List Value} {v : Value}
    (h : ((literal :: others).zip spans).map (fun (a, span) => value type foldCase a span) =
      values.map .ok) (hv : values.head? = some v) :
    ∃ span, value type foldCase literal span = .ok v := by
  cases values with
  | nil => cases hv
  | cons w ws =>
    cases hv
    cases spans with
    | nil => cases h
    | cons span spans => exact ⟨span, (List.cons.inj h).1⟩

/-- What a comparison is compiled to with the pattern operator in place of equality: a condition on the
same attribute that holds for each value for which the equality does. -/
theorem exists_like [PatternSize] {found : Resolution} {literal : String} {others : List String}
    {c : Condition} (wildcards : Bool) (ha : a.operator = .equal) (hb : b.operator = .like)
    (hselector : b.selector = a.selector) (harguments : b.arguments = a.arguments)
    (hliteral : a.arguments = literal :: others)
    (hfound : resolve schema root a.selector = .ok found) (htype : found.type = .string)
    (hc : a.compile schema root ⟨false, caseInsensitive⟩ = .ok c)
    (hsize : patternSize literal.toList c.foldCase ≤ maxPatternSize) :
    ∃ d, b.compile schema root ⟨wildcards, caseInsensitive⟩ = .ok d ∧ d.path = c.path ∧
      ∀ actual : Value, actual.SameUnfolded c.foldCase literal →
        c.holdsFor actual → d.holdsFor actual := by
  obtain ⟨found', hfound', -, hcondition⟩ := compile_eq_ok_iff.1 hc
  cases hfound.symm.trans hfound'
  rw [effectiveOperator_of_no_wildcards, ha, htype] at hcondition
  have hop : b.effectiveOperator ⟨wildcards, caseInsensitive⟩ found.type = .like := by
    unfold effectiveOperator
    rw [hb]
  cases hcondition with
  | null h => cases h
  | pattern _ h => cases h
  | @values values _ _ hvalues =>
    generalize hfold : folds ⟨false, caseInsensitive⟩ found .equal = foldCase at hvalues hsize
    let pattern : LikePattern := ⟨literal, foldCase⟩
    have hof : LikePattern.ofSource? literal foldCase = some pattern :=
      LikePattern.ofSource?_eq_some_iff.2 ⟨hsize, rfl⟩
    refine ⟨⟨.parse b.selector, .like, [.string literal], .string, foldCase, some pattern⟩, ?_,
      congrArg AttributePath.parse hselector, ?_⟩
    · refine compile_eq_ok_iff.2 ⟨found, by rw [hselector, hfound], ?_, ?_⟩
      · rw [hop, htype]
        rfl
      · rw [hop, htype]
        rw [show folds ⟨wildcards, caseInsensitive⟩ found .like = foldCase from hfold]
        exact .pattern rfl rfl (harguments.trans hliteral) hof
    · intro actual hsame hholds
      obtain ⟨hnull, v, hv, horder⟩ := Condition.order_of_holdsFor rfl hholds
      rw [Condition.holdsFor_like rfl rfl hnull]
      apply pattern.accepts_of_order hsame
      rw [Condition.order_eq] at horder
      rw [hliteral] at hvalues
      obtain ⟨span, hvalue⟩ := exists_span_of_head? hvalues hv
      have hfolded : Except.ok ((Value.string literal).folded foldCase) = Except.ok v := hvalue
      rw [← Except.ok.inj hfolded] at horder
      exact horder

/-- If switching the patterns on makes a pattern of the comparison, it is an equality, with an argument
that is not too large. -/
def MayGiveWay [PatternSize] (schema : Schema) (root : String) (caseInsensitive : Bool)
    (a : Placed) : Prop :=
  a.hasWildcard schema root → a.operator ≠ .notEqual ∧
    (a.operator = .equal → ∀ c, a.compile schema root ⟨false, caseInsensitive⟩ = .ok c →
      ∀ literal ∈ a.arguments.head?, patternSize literal.toList c.foldCase ≤ maxPatternSize)

/-- If an equality is made a pattern and case does not count, the value has the characters whose
lowercase is not folded alike where the argument has them. -/
def MeetsAlike (schema : Schema) (root : String) (a : Placed) (foldCase : Bool)
    (actual : Value) : Prop :=
  a.hasWildcard schema root → a.operator = .equal →
    ∀ literal ∈ a.arguments.head?, actual.SameUnfolded foldCase literal

theorem exists_of_hasWildcard (h : a.hasWildcard schema root) : ∃ found literal others,
    resolve schema root a.selector = .ok found ∧ found.type = .string ∧
      a.arguments = literal :: others := by
  unfold hasWildcard at h
  split at h
  · next found hfound =>
    simp only [Bool.and_eq_true, decide_eq_true_eq, List.any_eq_true] at h
    obtain ⟨htype, argument, hmem, -⟩ := h
    obtain ⟨literal, others, hliteral⟩ := List.exists_cons_of_ne_nil (List.ne_nil_of_mem hmem)
    exact ⟨found, literal, others, hfound, htype, hliteral⟩
  · cases h

theorem withPattern_of_equal (hwildcard : a.hasWildcard schema root) (hop : a.operator = .equal) :
    a.withPattern schema root = { a with operator := .like } := by
  rw [withPattern, if_pos hwildcard, hop]
  rfl

/-- Only equalities and their negations are made patterns. -/
theorem withPattern_of_ne_equal (hequal : ¬ (a.hasWildcard schema root ∧ a.operator = .equal))
    (hnotEqual : a.hasWildcard schema root → a.operator ≠ .notEqual) :
    a.withPattern schema root = a := by
  unfold withPattern
  split
  · next hwildcard =>
    have hop : a.operator.withPattern = a.operator := by
      cases hop : a.operator with
      | equal => exact absurd ⟨hwildcard, hop⟩ hequal
      | notEqual => exact absurd hop (hnotEqual hwildcard)
      | _ => rfl
    rw [hop]
  · rfl

/-- What switching the patterns on changes in a comparison: nothing, or an equality gives way to a
pattern that holds for each value for which the equality does. -/
theorem exists_compile_wildcard [PatternSize] {c : Condition}
    (hway : a.MayGiveWay schema root caseInsensitive)
    (hc : a.compile schema root ⟨false, caseInsensitive⟩ = .ok c) :
    ∃ d, a.compile schema root ⟨true, caseInsensitive⟩ = .ok d ∧ d.path = c.path ∧
      ∀ actual, a.MeetsAlike schema root c.foldCase actual →
        c.holdsFor actual → d.holdsFor actual := by
  rw [← compile_withPattern]
  by_cases hchanges : a.hasWildcard schema root ∧ a.operator = .equal
  · obtain ⟨hwildcard, hequal⟩ := hchanges
    obtain ⟨found, literal, others, hfound, htype, hliteral⟩ := exists_of_hasWildcard hwildcard
    have hhead : literal ∈ a.arguments.head? := by rw [hliteral]; rfl
    have hsize := (hway hwildcard).2 hequal c hc literal hhead
    obtain ⟨d, hd, hpath, hholds⟩ := exists_like (b := { a with operator := .like }) false hequal
      rfl rfl rfl hliteral hfound htype hc hsize
    rw [withPattern_of_equal hwildcard hequal]
    exact ⟨d, hd, hpath, fun actual hmeets => hholds actual (hmeets hwildcard hequal literal hhead)⟩
  · rw [withPattern_of_ne_equal hchanges fun hwildcard => (hway hwildcard).1]
    exact ⟨c, hc, rfl, fun _ _ h => h⟩

end Placed

/-! ### Queries -/

/-- The comparison meets only such values of its attribute in a record. -/
def Placed.SeesAlike [PatternSize] {ρ : Type} [Record ρ] (schema : Schema) (root : String)
    (caseInsensitive : Bool) (record : ρ) (a : Placed) : Prop :=
  ∀ c, a.compile schema root ⟨false, caseInsensitive⟩ = .ok c →
    ∀ x, Leads record c.path.relations x →
      a.MeetsAlike schema root c.foldCase (Record.scalar x c.path.attributeName)

section

variable [PatternSize] {schema : Schema} {root : String} {caseInsensitive : Bool} {q : Query}

/-- A predicate of equalities that hold on a record holds on it with patterns in their place. -/
theorem Predicate.holds_of_equal {ρ : Type} [Record ρ] {p p' : Predicate} {record : ρ}
    (hway : ∀ a ∈ q.atoms, a.MayGiveWay schema root caseInsensitive)
    (hsees : ∀ a ∈ q.atoms, a.SeesAlike schema root caseInsensitive record)
    (hp : q.compile schema root ⟨false, caseInsensitive⟩ = .ok p)
    (hp' : q.compile schema root ⟨true, caseInsensitive⟩ = .ok p')
    (h : (evaluate p record).holds) : (evaluate p' record).holds := by
  rw [evaluate_iff, Means, Formula.holds_traverse hp] at h
  rw [evaluate_iff, Means, Formula.holds_traverse hp']
  refine h.imp ?_
  rintro a ha ⟨c, hc, x, hx, hholds⟩
  obtain ⟨d, hd, hpath, himp⟩ := Placed.exists_compile_wildcard (hway a ha) hc
  refine ⟨d, hd, x, by rw [hpath]; exact hx, ?_⟩
  rw [hpath]
  exact himp _ (hsees a ha c hc x hx) hholds

/-- A pattern holds for each value for which equality with the same argument does, and a query with
patterns on each record on which it holds with the equalities, if characters whose lowercase is not
folded alike are at the same places where case does not count. -/
theorem Query.patterns_include_equality (schema : Schema) (root : String) (caseInsensitive : Bool) :
    (∀ (a b : Placed) (found : Resolution) (literal : String) (c : Condition) (wildcards : Bool),
      a.operator = .equal → b.operator = .like → b.selector = a.selector →
      b.arguments = a.arguments → a.arguments = [literal] →
      resolve schema root a.selector = .ok found → found.type = .string →
      a.compile schema root ⟨false, caseInsensitive⟩ = .ok c →
      patternSize literal.toList c.foldCase ≤ maxPatternSize →
      ∃ d, b.compile schema root ⟨wildcards, caseInsensitive⟩ = .ok d ∧ d.path = c.path ∧
        ∀ actual : Value, actual.SameUnfolded c.foldCase literal →
          c.holdsFor actual → d.holdsFor actual) ∧
    ∀ (q : Query) (p : Predicate), q.compile schema root ⟨false, caseInsensitive⟩ = .ok p →
      (∀ a ∈ q.atoms, a.MayGiveWay schema root caseInsensitive) →
      ∃ p', q.compile schema root ⟨true, caseInsensitive⟩ = .ok p' ∧
        ∀ (ρ : Type) [Record ρ] (record : ρ),
          (∀ a ∈ q.atoms, a.SeesAlike schema root caseInsensitive record) →
          (Predicate.evaluate p record).holds → (Predicate.evaluate p' record).holds := by
  constructor
  · intro a b found literal c wildcards ha hb hselector harguments hliteral hfound htype hc hsize
    exact Placed.exists_like wildcards ha hb hselector harguments hliteral hfound htype hc hsize
  · intro q p hp hway
    obtain ⟨p', hp'⟩ := Formula.exists_traverse hp fun a ha c hc => by
      obtain ⟨d, hd, -⟩ := Placed.exists_compile_wildcard (hway a ha) hc
      exact ⟨d, hd⟩
    exact ⟨p', hp', fun ρ _ record hsees => Predicate.holds_of_equal hway hsees hp hp'⟩

end

/-- The comparison `a==x*`. -/
def Placed.equalStar : Placed := ⟨⟨"a", .equal, ["x*"]⟩, ⟨0, 1⟩, ⟨1, 2⟩, [⟨3, 2⟩]⟩

namespace Predicate

theorem patterns_include_equality_folded :
    (∃ d, { Placed.equalStar with operator := .like }.compile smallSchema "T" ⟨true, true⟩ = .ok d ∧
      d.holdsFor (.string "X*")) ∧
    ∃ p', Query.compile (.atom Placed.equalStar) smallSchema "T" ⟨true, true⟩ = .ok p' ∧
      (evaluate p' (Json.object [("a", .string "X*")])).holds := by
  let c : Condition := ⟨.parse "a", .equal, [.string "x*"], .string, true, none⟩
  have hresolve : resolve smallSchema "T" "a" = .ok ⟨.string, false, []⟩ := by decide +kernel
  have hcompile : Placed.equalStar.compile smallSchema "T" ⟨false, true⟩ = .ok c := by
    decide +kernel
  have hplain (s : String) (h : s.toList.all (· ∉ Unicode.unfolded)) :
      ∀ c ∈ s.toList, c ∉ Unicode.unfolded :=
    fun c hc => of_decide_eq_true (List.all_eq_true.1 h c hc)
  have hsame : Value.SameUnfolded true "x*" (.string "X*") := by
    rintro _ s ⟨⟩
    exact Unicode.sameUnfolded_of_not_mem (hplain _ (by decide +kernel))
      (hplain _ (by decide +kernel))
  have hway : Placed.equalStar.MayGiveWay smallSchema "T" true := by
    refine fun _ => ⟨nofun, ?_⟩
    rintro _ d hd _ ⟨⟩
    obtain rfl := Except.ok.inj (hcompile.symm.trans hd)
    decide
  have hsees : Placed.equalStar.SeesAlike smallSchema "T" true
      (Json.object [("a", .string "X*")]) := by
    rintro d hd x hx - - _ ⟨⟩
    obtain rfl := Except.ok.inj (hcompile.symm.trans hd)
    cases hx
    exact hsame
  obtain ⟨hlike, hquery⟩ := Query.patterns_include_equality smallSchema "T" true
  obtain ⟨d, hd, -, hholds⟩ := hlike Placed.equalStar { Placed.equalStar with operator := .like }
    ⟨.string, false, []⟩ "x*" c true rfl rfl rfl rfl rfl hresolve rfl hcompile (by decide)
  have hpredicate : Query.compile (.atom Placed.equalStar) smallSchema "T" ⟨false, true⟩ =
      .ok (.atom c) := by
    rw [Query.compile, Formula.traverse_atom, hcompile]
    rfl
  obtain ⟨p', hp', hevaluate⟩ := hquery (.atom Placed.equalStar) (.atom c) hpredicate
    (List.forall_mem_singleton.2 hway)
  refine ⟨⟨d, hd, hholds _ hsame (by decide +kernel)⟩, p', hp', ?_⟩
  exact hevaluate Json _ (List.forall_mem_singleton.2 hsees) (by decide +kernel)

/-- The dotted capital I has the lowercase of an i with a dot above, and is not folded to it. -/
theorem equal_without_like : ∃ c d,
    (ofText "a==\u0130" smallSchema "T" ⟨false, true⟩).toOption.bind Formula.atom? = some c ∧
      (ofText "a=like=\u0130" smallSchema "T" ⟨false, true⟩).toOption.bind Formula.atom? = some d ∧
      c.holdsFor (.string "i\u0307") ∧ ¬ d.holdsFor (.string "i\u0307") := by
  refine ⟨⟨.parse "a", .equal, [.string "i\u0307"], .string, true, none⟩,
    ⟨.parse "a", .like, [.string "\u0130"], .string, true, some ⟨"\u0130", true⟩⟩, ?_⟩
  decide +kernel

end Predicate
end FilterQuery
