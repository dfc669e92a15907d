import FilterQuery.Proofs.Predicate.Moved
import FilterQuery.Proofs.Predicate.Rendering
import FilterQuery.Record

/-!
# Predicates of queries that are put together

* `QueryError.IsMoved` : an error of a text that stands further on in another one;
* `Predicate.Combines` : what the predicate of a text is made of, and which error it gives if there is
  none;
* `Predicate.combines_and`, `Predicate.combines_or` : two queries that are joined;
* `Predicate.joins_ofText` : putting texts of queries together puts together what they mean.
-/

set_option autoImplicit false

namespace FilterQuery
open Grammar

/-- The error `e'` says of the text `whole` what `e` says of a part of it that starts at byte `n`. -/
structure QueryError.IsMoved (n : Nat) (whole : String) (e e' : QueryError) : Prop where
  fault : ∃ cause, e.fault = .semantic cause ∧ e'.fault = .semantic (cause.shift n)
  source : e'.source = whole
  message : e'.message = e.message
  code : e'.code = e.code
  help : e'.help? = e.help?
  labels : e'.labels = e.labels.map (Prod.map (Span.shift n) id)

theorem QueryError.isMoved_semantic (n : Nat) (part whole : String) (cause : CompileError) :
    IsMoved n whole ⟨.semantic cause, part⟩ ⟨.semantic (cause.shift n), whole⟩ where
  fault := ⟨cause, rfl, rfl⟩
  source := rfl
  message := cause.message_shift n
  code := cause.code_shift n
  help := cause.help?_shift n
  labels := cause.labels_shift n

/-- The predicate of the text `whole` holds where `op` of those of the texts `first` and `second` does.
If these texts have none, neither has `whole`: it has the error of the first text, which starts at byte
`m`, or else that of the second, which starts at byte `n`. -/
structure Predicate.Combines [PatternSize] (schema : Schema) (root : String) (options : Options)
    (op : Bool → Bool → Bool) (first second whole : String) (m n : Nat) : Prop where
  holds : ∀ p₁ p₂, ofText first schema root options = .ok p₁ →
    ofText second schema root options = .ok p₂ →
    ∃ p, ofText whole schema root options = .ok p ∧ ∀ (ρ : Type) [Record ρ] (record : ρ),
      (evaluate p record).holds = op (evaluate p₁ record).holds (evaluate p₂ record).holds
  left : ∀ e, ofText first schema root options = .error e →
    ∃ e', ofText whole schema root options = .error e' ∧ e.IsMoved m whole e'
  right : ∀ p₁ e, ofText first schema root options = .ok p₁ →
    ofText second schema root options = .error e →
    ∃ e', ofText whole schema root options = .error e' ∧ e.IsMoved n whole e'

namespace Predicate

section

variable [PatternSize] {schema : Schema} {root : String} {options : Options}

/-- What is true of the compiled queries is true of the texts. -/
theorem combines_of_compile {op : Bool → Bool → Bool} {first second whole : String} {m n : Nat}
    {q₁ q₂ q : Query} (h₁ : Query.ofText first = .ok q₁) (h₂ : Query.ofText second = .ok q₂)
    (h : Query.ofText whole = .ok q)
    (hholds : ∀ p₁ p₂, q₁.compile schema root options = .ok p₁ →
      q₂.compile schema root options = .ok p₂ →
      ∃ p, q.compile schema root options = .ok p ∧ ∀ (ρ : Type) [Record ρ] (record : ρ),
        (evaluate p record).holds = op (evaluate p₁ record).holds (evaluate p₂ record).holds)
    (hleft : ∀ e, q₁.compile schema root options = .error e →
      q.compile schema root options = .error (e.shift m))
    (hright : ∀ p₁ e, q₁.compile schema root options = .ok p₁ →
      q₂.compile schema root options = .error e →
      q.compile schema root options = .error (e.shift n)) :
    Combines schema root options op first second whole m n := by
  constructor
  · intro p₁ p₂ hp₁ hp₂
    rw [ofText_of_query h₁, mapError_eq_ok] at hp₁
    rw [ofText_of_query h₂, mapError_eq_ok] at hp₂
    obtain ⟨p, hp, heval⟩ := hholds p₁ p₂ hp₁ hp₂
    refine ⟨p, ?_, heval⟩
    rw [ofText_of_query h, hp]
    rfl
  · intro e he
    rw [ofText_of_query h₁, mapError_eq_error] at he
    obtain ⟨cause, hcause, rfl⟩ := he
    refine ⟨_, ?_, QueryError.isMoved_semantic m first whole cause⟩
    rw [ofText_of_query h, hleft cause hcause]
    rfl
  · intro p₁ e hp₁ he
    rw [ofText_of_query h₁, mapError_eq_ok] at hp₁
    rw [ofText_of_query h₂, mapError_eq_error] at he
    obtain ⟨cause, hcause, rfl⟩ := he
    refine ⟨_, ?_, QueryError.isMoved_semantic n second whole cause⟩
    rw [ofText_of_query h, hright p₁ cause hp₁ hcause]
    rfl

/-- Two queries at two places, joined by "and". -/
theorem combines_and {first second whole : String} {m n : Nat} {q₁ q₂ : Query}
    (h₁ : Query.ofText first = .ok q₁) (h₂ : Query.ofText second = .ok q₂)
    (h : Query.ofText whole = .ok (.group .and [q₁.shift m, q₂.shift n])) :
    Combines schema root options (· && ·) first second whole m n := by
  have hcompile : Query.compile (.group .and [q₁.shift m, q₂.shift n]) schema root options =
      (do
        let p₁ ← (q₁.compile schema root options).mapError (CompileError.shift m)
        let p₂ ← (q₂.compile schema root options).mapError (CompileError.shift n)
        return .group .and [p₁, p₂]) := by
    rw [← Query.compile_shift, ← Query.compile_shift, Query.compile, Formula.traverse_group_mapM,
      List.mapM_cons, List.mapM_cons, List.mapM_nil, ← Query.compile, ← Query.compile]
    cases (q₁.shift m).compile schema root options with
    | error e => rfl
    | ok p₁ => cases (q₂.shift n).compile schema root options <;> rfl
  refine combines_of_compile h₁ h₂ h ?_ ?_ ?_
  · intro p₁ p₂ hp₁ hp₂
    refine ⟨.group .and [p₁, p₂], ?_, ?_⟩
    · rw [hcompile, hp₁, hp₂]
      rfl
    · intro ρ _ record
      rw [evaluate, Formula.evaluate, Formula.holds_evaluateAll, List.all_cons, List.all_cons,
        List.all_nil, Bool.and_true]
      rfl
  · intro e he
    rw [hcompile, he]
    rfl
  · intro p₁ e hp₁ he
    rw [hcompile, hp₁, he]
    rfl

/-- The alternatives of a query, and those of one further on. -/
theorem combines_or {first second whole : String} {n : Nat} {parts₁ parts₂ : List Query}
    (h₁ : Query.ofText first = .ok (.join .or parts₁))
    (h₂ : Query.ofText second = .ok (.join .or parts₂))
    (h : Query.ofText whole = .ok (.join .or (parts₁ ++ parts₂.map (Query.shift n)))) :
    Combines schema root options (· || ·) first second whole 0 n := by
  have hjoin (parts : List Query) : Query.compile (.join .or parts) schema root options =
      (parts.mapM (Query.compile · schema root options)).map (.join .or) :=
    Formula.traverse_join ..
  have hmoved : (parts₂.map (Query.shift n)).mapM (Query.compile · schema root options) =
      (parts₂.mapM (Query.compile · schema root options)).mapError (CompileError.shift n) :=
    mapM_map_mapError fun q _ => q.compile_shift n
  refine combines_of_compile h₁ h₂ h ?_ ?_ ?_
  · intro p₁ p₂ hp₁ hp₂
    rw [hjoin, map_eq_ok] at hp₁ hp₂
    obtain ⟨ps₁, hps₁, rfl⟩ := hp₁
    obtain ⟨ps₂, hps₂, rfl⟩ := hp₂
    refine ⟨.join .or (ps₁ ++ ps₂), ?_, ?_⟩
    · rw [hjoin, List.mapM_append, hmoved, hps₁, hps₂]
      rfl
    · intro ρ _ record
      rw [evaluate, evaluate, evaluate, Formula.holds_join_or, Formula.holds_join_or,
        Formula.holds_join_or, List.any_append]
  · intro e he
    rw [hjoin, map_eq_error] at he
    rw [hjoin, List.mapM_append, he, CompileError.shift_zero]
    rfl
  · intro p₁ e hp₁ he
    rw [hjoin, map_eq_ok] at hp₁
    obtain ⟨ps₁, hps₁, rfl⟩ := hp₁
    rw [hjoin, map_eq_error] at he
    rw [hjoin, List.mapM_append, hmoved, hps₁, he]
    rfl

/-- Texts of queries can be put together with no regard to what they say. In parentheses a query is
what it was, and with "and" between them two such queries are the two parts of a group; with a comma
between them, without parentheses, two queries are the alternatives of both. What the whole means is
made of what the queries mean, and what is wrong with the whole is what is wrong with the first of
them, or else with the second, at the place where its text starts. -/
theorem joins_ofText {t₁ t₂ : String} {q₁ q₂ : Query} {d₁ d₂ : Alternatives}
    (h₁ : Query.ofText t₁ = .ok q₁) (h₂ : Query.ofText t₂ = .ok q₂) (hd₁ : d₁.Derives t₁)
    (hd₂ : d₂.Derives t₂) :
    (d₁.depth < maxGroups →
      ∃ q, Query.ofText ("(" ++ t₁ ++ ")") = .ok q ∧ q.bare = q₁.bare) ∧
    (d₁.depth < maxGroups → d₂.depth < maxGroups →
      (∃ q, Query.ofText ("(" ++ t₁ ++ ");(" ++ t₂ ++ ")") = .ok q ∧
        q.bare = .group .and [q₁.bare, q₂.bare]) ∧
      ∀ schema root options, Combines schema root options (· && ·) t₁ t₂
        ("(" ++ t₁ ++ ");(" ++ t₂ ++ ")") 1 (byteLength t₁.toList + 4)) ∧
    (∃ q, Query.ofText (t₁ ++ "," ++ t₂) = .ok q ∧
      q.bare = .group .or (d₁.formulas ++ d₂.formulas)) ∧
    ∀ schema root options, Combines schema root options (· || ·) t₁ t₂ (t₁ ++ "," ++ t₂) 0
      (byteLength t₁.toList + 1) := by
  obtain ⟨parts₁, hw₁, rfl, hparts₁⟩ := exists_yields h₁ hd₁
  obtain ⟨parts₂, hw₂, rfl, hparts₂⟩ := exists_yields h₂ hd₂
  have hor := ofText_or hw₁ hw₂ hd₁.2 hd₂.2
  refine ⟨?_, ?_, ⟨_, hor, ?_⟩, fun schema root options => combines_or h₁ h₂ hor⟩
  · intro hroom₁
    exact ⟨_, ofText_group hw₁ hroom₁, Query.bare_shift ..⟩
  · intro hroom₁ hroom₂
    have hand := ofText_and hw₁ hw₂ hroom₁ hroom₂
    refine ⟨⟨_, hand, ?_⟩, fun schema root options => combines_and h₁ h₂ hand⟩
    rw [Query.bare, Formula.map_group, List.map_cons, List.map_singleton, ← Query.bare,
      ← Query.bare, Query.bare_shift, Query.bare_shift]
  · have hmoved : (parts₂.map (Query.shift (byteLength t₁.toList + 1))).map Query.bare =
        d₂.formulas := by
      rw [List.map_map, ← hparts₂]
      exact List.map_congr_left fun q _ => q.bare_shift _
    have hlength : 2 ≤ (d₁.formulas ++ d₂.formulas).length := by
      have hpos₁ := List.length_pos_iff.2 d₁.formulas_ne_nil
      have hpos₂ := List.length_pos_iff.2 d₂.formulas_ne_nil
      rw [List.length_append]
      omega
    rw [bare_join, List.map_append, hparts₁, hmoved, Formula.join_of_length hlength]

end

theorem joins_ofText_nested : ∃ t₁ t₂ q₁ q₂, ∃ d₁ d₂ : Alternatives,
    t₁ = "a==1" ∧ t₂ = "a==1,a==1;(a==1)" ∧ Query.ofText t₁ = .ok q₁ ∧ Query.ofText t₂ = .ok q₂ ∧
      d₁.Derives t₁ ∧ d₂.Derives t₂ ∧ d₁.depth < maxGroups ∧ d₂.depth < maxGroups ∧
      (∃ q, Query.ofText ("(" ++ t₁ ++ ");(" ++ t₂ ++ ")") = .ok q ∧
        q.bare = .group .and [q₁.bare, q₂.bare]) ∧
      (∃ q, Query.ofText (t₁ ++ "," ++ t₂) = .ok q ∧
        q.bare = .group .or (d₁.formulas ++ d₂.formulas)) ∧
      Combines smallSchema "T" ⟨false, false⟩ (· || ·) t₁ t₂ (t₁ ++ "," ++ t₂) 0 5 := by
  obtain ⟨d₁, hw₁, hdepth₁, -⟩ := Query.exists_writes_nested 0
  obtain ⟨d₂, hw₂, hdepth₂, -⟩ := Query.exists_writes_nested 1
  have hroom₁ : d₁.depth < maxGroups := by
    rw [hdepth₁]
    decide
  have hroom₂ : d₂.depth < maxGroups := by
    rw [hdepth₂]
    decide
  have hd₁ : d₁.Derives "a==1" := ⟨Alternatives.munch_of_writes hw₁, Nat.le_of_lt hroom₁⟩
  have hd₂ : d₂.Derives "a==1,a==1;(a==1)" :=
    ⟨Alternatives.munch_of_writes hw₂, Nat.le_of_lt hroom₂⟩
  obtain ⟨q₁, h₁, -⟩ := hd₁.exists_query
  obtain ⟨q₂, h₂, -⟩ := hd₂.exists_query
  obtain ⟨-, hand, hor, hcombines⟩ := joins_ofText h₁ h₂ hd₁ hd₂
  exact ⟨_, _, q₁, q₂, d₁, d₂, rfl, rfl, h₁, h₂, hd₁, hd₂, hroom₁, hroom₂, (hand hroom₁ hroom₂).1,
    hor, hcombines ..⟩

end Predicate
end FilterQuery
