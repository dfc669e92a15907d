import FilterQuery.Diagnosis
import FilterQuery.Proofs.Query.Joining

/-!
# Compiling what stands further on in a text

A comparison compiles to the same condition wherever it stands, or fails with the same error, which
blames the same parts where they stand.

* `CompileError.shift` : an error of a text that stands further on in another, and `labels_shift`, what
  it blames;
* `Placed.compile_shift`, `Query.compile_shift` : compiling comparisons and queries further on.
-/

set_option autoImplicit false

namespace FilterQuery

/-- The error with all places `n` bytes further on. -/
def CompileError.shift (n : Nat) : CompileError → CompileError
  | unknownType name => .unknownType name
  | unknownAttribute path segment type fault available span =>
    .unknownAttribute path segment type fault available (span.shift n)
  | unsupportedOperator op type path operatorSpan selectorSpan =>
    .unsupportedOperator op type path (operatorSpan.shift n) (selectorSpan.shift n)
  | coercion literal type error span => .coercion literal type error (span.shift n)
  | patternTooLarge literal span => .patternTooLarge literal (span.shift n)
  | patternMissing => .patternMissing

namespace CompileError

variable (n : Nat) (e : CompileError)

@[simp] theorem message_shift : (e.shift n).message = e.message := by
  cases e <;> rfl

@[simp] theorem code_shift : (e.shift n).code = e.code := by
  cases e <;> rfl

@[simp] theorem help?_shift : (e.shift n).help? = e.help? := by
  cases e <;> rfl

@[simp] theorem labels_shift :
    (e.shift n).labels = e.labels.map (Prod.map (Span.shift n) id) := by
  cases e <;> rfl

theorem shift_zero : e.shift 0 = e := by
  cases e <;> rfl

end CompileError

section Compile

variable {schema : Schema} {root : String} {options : Options}

theorem segmentSpan_shift (n : Nat) (selector : Span) (offset index : Nat)
    (segments : List (List Char)) :
    segmentSpan (selector.shift n) (offset + n) index segments =
      (segmentSpan selector offset index segments).shift n := by
  induction segments generalizing offset index with
  | nil => cases index <;> rfl
  | cons segment rest ih =>
    cases index with
    | zero => rfl
    | succ index =>
      rw [segmentSpan, segmentSpan, ← ih]
      congr 1
      omega

theorem ResolveError.compileError_shift (n : Nat) (p : Placed) (e : ResolveError) :
    e.compileError (p.place (Span.shift n)) = (e.compileError p).shift n := by
  cases e with
  | unknownType name => rfl
  | unknownAttribute path segment index type fault available =>
    rw [ResolveError.compileError, ResolveError.compileError, CompileError.shift,
      ← segmentSpan_shift]
    rfl

namespace Placed

theorem value_shift (n : Nat) (type : ValueType) (foldCase : Bool) (argument : String)
    (span : Span) : value type foldCase argument (span.shift n) =
      (value type foldCase argument span).mapError (CompileError.shift n) := by
  unfold value
  split <;> rfl

theorem condition_shift [PatternSize] (n : Nat) (p : Placed) (op : Operator) (type : ValueType)
    (foldCase : Bool) : (p.place (Span.shift n)).condition op type foldCase =
      (p.condition op type foldCase).mapError (CompileError.shift n) := by
  have hhead : (p.argumentSpans.map (Span.shift n)).head?.getD (p.operatorSpan.shift n) =
      (p.argumentSpans.head?.getD p.operatorSpan).shift n := by
    cases p.argumentSpans <;> rfl
  unfold condition place
  dsimp only
  rw [hhead, List.zip_map_right]
  split
  · rfl
  · split
    · split
      · rfl
      · split <;> rfl
    · rw [mapM_map_mapError fun x _ => value_shift n type foldCase x.1 x.2]
      cases (p.arguments.zip p.argumentSpans).mapM fun x => value type foldCase x.1 x.2 <;> rfl

theorem compile_shift [PatternSize] (n : Nat) (p : Placed) :
    (p.place (Span.shift n)).compile schema root options =
      (p.compile schema root options).mapError (CompileError.shift n) := by
  have heffective (type : ValueType) :
      (p.place (Span.shift n)).effectiveOperator options type = p.effectiveOperator options type :=
    rfl
  unfold compile
  rw [show (p.place (Span.shift n)).selector = p.selector from rfl]
  cases resolve schema root p.selector with
  | error e => exact congrArg Except.error (e.compileError_shift n p)
  | ok found =>
    dsimp only
    rw [heffective]
    split
    · exact condition_shift ..
    · rfl

end Placed

/-- A query further on in a text compiles as the query does. -/
theorem Query.compile_shift [PatternSize] (n : Nat) (q : Query) :
    (q.shift n).compile schema root options =
      (q.compile schema root options).mapError (CompileError.shift n) :=
  Formula.traverse_map fun p _ => p.compile_shift n

end Compile
end FilterQuery
