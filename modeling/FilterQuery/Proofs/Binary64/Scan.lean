import FilterQuery.Proofs.Binary64.Plain
import FilterQuery.Proofs.Digits
import FilterQuery.Proofs.Unicode.Ascii

/-!
# The texts that are read as decimals

The form of a decimal is a sign and digits with at most one point. A scan of the characters finds this
form, and so does a reader that takes a text apart from the front; they find the same texts.

* `WritesFixed`, `WritesDecimal` : the texts, with the digits and how many of them are behind the point;
* `isFixedPoint`, `isFixedPoint_splitSign_iff` : the scan;
* `Binary64.ofFixed?_eq_some_iff` : the reader of this form;
* `Binary64.ofText?_of_writesDecimal` : the reader that also knows exponents and words.
-/

set_option autoImplicit false

namespace FilterQuery

/-- The text is digits with at most one point before, between or behind them. Without the point they write
`n`, and `places` of them stand behind it. -/
inductive WritesFixed : List Char → (n places : Nat) → Prop
  | whole {cs : List Char} {n : Nat} : WritesNat cs n → WritesFixed cs n 0
  | point {whole fraction : List Char} {n : Nat} : WritesNat (whole ++ fraction) n →
      WritesFixed (whole ++ '.' :: fraction) n fraction.length

/-- Whether the text is digits and at most one point, with a digit at least. -/
def isFixedPoint (cs : List Char) : Bool :=
  cs.any Char.isDigit && cs.all (fun c => c.isDigit || c = '.') && decide (cs.count '.' ≤ 1)

theorem point_not_mem_of_isDigit {cs : List Char} (h : ∀ c ∈ cs, c.isDigit) : '.' ∉ cs :=
  fun hpoint => absurd (h _ hpoint) (by decide)

theorem isFixedPoint_eq_true_iff {cs : List Char} : isFixedPoint cs ↔
    (∃ c ∈ cs, c.isDigit) ∧ (∀ c ∈ cs, c.isDigit ∨ c = '.') ∧ cs.count '.' ≤ 1 := by
  simp only [isFixedPoint, Bool.and_eq_true, List.any_eq_true, List.all_eq_true, Bool.or_eq_true,
    decide_eq_true_eq, and_assoc]

theorem mem_point_iff {whole fraction : List Char} {c : Char} :
    c ∈ whole ++ '.' :: fraction ↔ c ∈ whole ++ fraction ∨ c = '.' := by
  rw [List.mem_append, List.mem_cons, List.mem_append, or_left_comm, or_comm]

theorem WritesFixed.isFixedPoint {cs : List Char} {n places : Nat} (h : WritesFixed cs n places) :
    isFixedPoint cs := by
  rw [isFixedPoint_eq_true_iff]
  cases h with
  | whole h =>
    obtain ⟨c, rest, rfl, hc⟩ := h.exists_cons
    have hcount := List.count_eq_zero.2 (point_not_mem_of_isDigit h.isDigit)
    exact ⟨⟨c, List.mem_cons_self, hc⟩, fun c hc => .inl (h.isDigit c hc), by omega⟩
  | @point whole fraction _ h =>
    obtain ⟨c, rest, hcons, hc⟩ := h.exists_cons
    have hmem : c ∈ whole ++ fraction := hcons ▸ List.mem_cons_self
    have hcount := List.count_eq_zero.2 (point_not_mem_of_isDigit h.isDigit)
    refine ⟨⟨c, mem_point_iff.2 (.inl hmem), hc⟩, fun d hd => ?_, ?_⟩
    · exact (mem_point_iff.1 hd).imp_left (h.isDigit d)
    · rw [List.count_append] at hcount
      rw [List.count_append, List.count_cons_self]
      omega

/-- A point that is found parts the digits, and no second one is found. -/
theorem exists_writesFixed {cs : List Char} (h : isFixedPoint cs) :
    ∃ n places, WritesFixed cs n places := by
  obtain ⟨⟨d, hd, hdigit⟩, hall, hcount⟩ := isFixedPoint_eq_true_iff.1 h
  by_cases hpoint : '.' ∈ cs
  · obtain ⟨whole, fraction, rfl, hwhole⟩ := List.eq_append_cons_of_mem hpoint
    have hfraction : '.' ∉ fraction := by
      intro hmem
      have hpos := List.count_pos_iff.2 hmem
      rw [List.count_append, List.count_cons_self] at hcount
      omega
    have hdigits : ∀ c ∈ whole ++ fraction, c.isDigit := by
      intro c hc
      refine (hall c (mem_point_iff.2 (.inl hc))).resolve_right ?_
      rintro rfl
      exact (List.mem_append.1 hc).elim hwhole hfraction
    have hd' : d ∈ whole ++ fraction := by
      refine (mem_point_iff.1 hd).resolve_right ?_
      rintro rfl
      exact absurd hdigit (by decide)
    exact ⟨_, _, .point ⟨List.ne_nil_of_mem hd', hdigits, rfl⟩⟩
  · have hdigits : ∀ c ∈ cs, c.isDigit := by
      intro c hc
      refine (hall c hc).resolve_right ?_
      rintro rfl
      exact hpoint hc
    exact ⟨_, _, .whole ⟨List.ne_nil_of_mem hd, hdigits, rfl⟩⟩

namespace Binary64

/-- Digits with at most one point are what is read without an exponent. -/
theorem fixed?_eq_some_iff {cs : List Char} {n : Nat} {exponent : Int} :
    fixed? cs = some (n, exponent, []) ↔
      ∃ places : Nat, exponent = -places ∧ WritesFixed cs n places := by
  constructor
  · intro h
    have hwhole : ∀ c ∈ cs.takeWhile Char.isDigit, c.isDigit := fun _ => List.mem_takeWhile_imp
    have hcs := List.takeWhile_append_dropWhile (p := Char.isDigit) (l := cs)
    unfold fixed? at h
    dsimp only at h
    generalize cs.takeWhile Char.isDigit = whole at h hwhole hcs
    generalize cs.dropWhile Char.isDigit = rest at h hcs
    subst hcs
    split at h
    · next r =>
      dsimp only at h
      split at h
      · cases h
      · next hne =>
        simp only [Option.some.injEq, Prod.mk.injEq, List.dropWhile_eq_nil_iff] at h
        obtain ⟨hn, rfl, hr⟩ := h
        rw [List.takeWhile_eq_self_iff.2 hr] at hn hne ⊢
        refine ⟨_, rfl, .point ⟨?_, List.forall_mem_append.2 ⟨hwhole, hr⟩, hn⟩⟩
        rwa [Ne, List.append_eq_nil_iff]
    · dsimp only at h
      split at h
      · cases h
      · next hne =>
        simp only [Option.some.injEq, Prod.mk.injEq, List.append_nil] at h
        obtain ⟨hn, rfl, rfl⟩ := h
        rw [List.append_nil]
        exact ⟨0, rfl, .whole ⟨fun hnil => hne ⟨hnil, rfl⟩, hwhole, hn⟩⟩
  · rintro ⟨places, rfl, h⟩
    cases h with
    | whole h =>
      rw [fixed?_whole h.ne_nil h.isDigit, h.value]
      rfl
    | point h =>
      obtain ⟨hw, hf⟩ := List.forall_mem_append.1 h.isDigit
      rw [fixed?_point h.ne_nil hw hf, h.value]

end Binary64

theorem WritesFixed.exists_cons {cs : List Char} {n places : Nat} (h : WritesFixed cs n places) :
    ∃ c rest, cs = c :: rest ∧ (c.isDigit ∨ c = '.') := by
  cases h with
  | whole h =>
    obtain ⟨c, rest, rfl, hc⟩ := h.exists_cons
    exact ⟨c, rest, rfl, .inl hc⟩
  | @point whole fraction _ h =>
    cases whole with
    | nil => exact ⟨_, _, rfl, .inr rfl⟩
    | cons c whole => exact ⟨_, _, rfl, .inl (h.isDigit c List.mem_cons_self)⟩

/-- The text is an optional sign and digits with at most one point. -/
inductive WritesDecimal : List Char → (negative : Bool) → (n places : Nat) → Prop
  | intro {sign cs : List Char} {negative : Bool} {n places : Nat} : WritesSign sign negative →
      WritesFixed cs n places → WritesDecimal (sign ++ cs) negative n places

variable {text : List Char} {negative : Bool} {n places : Nat}

/-- The sign is what is split off. -/
theorem writesDecimal_iff : WritesDecimal text negative n places ↔
    ∃ cs, splitSign text = (negative, cs) ∧ WritesFixed cs n places := by
  constructor
  · rintro ⟨hsign, hcs⟩
    obtain ⟨c, cs, rfl, hc⟩ := hcs.exists_cons
    refine ⟨_, splitSign_of_writesSign hsign ?_ cs, hcs⟩
    rcases hc with hc | rfl
    · exact not_sign_of_isDigit hc
    · decide
  · rintro ⟨cs, hsplit, hcs⟩
    obtain ⟨sign, rest, negative', htext, hsign, hsplit', -⟩ := exists_writesSign text
    cases hsplit.symm.trans hsplit'
    rw [htext]
    exact .intro hsign hcs

/-- The scan of what follows the sign finds the texts of decimals. -/
theorem isFixedPoint_splitSign_iff : isFixedPoint (splitSign text).2 ↔
    ∃ negative n places, WritesDecimal text negative n places := by
  simp only [writesDecimal_iff]
  constructor
  · intro h
    obtain ⟨n, places, hwrites⟩ := exists_writesFixed h
    exact ⟨_, n, places, _, rfl, hwrites⟩
  · rintro ⟨negative, n, places, cs, hsplit, hwrites⟩
    rw [hsplit]
    exact hwrites.isFixedPoint

namespace Binary64

variable {x : Binary64}

/-- The texts of decimals are read as what their digits are rounded to. -/
theorem ofFixed?_eq_some_iff : ofFixed? text = some x ↔
    ∃ negative n places, WritesDecimal text negative n places ∧
      x = ofDecimal negative n (-(places : Int)) := by
  simp only [writesDecimal_iff]
  unfold ofFixed?
  cases hsplit : splitSign text with
  | mk negative cs =>
    dsimp only
    constructor
    · intro h
      split at h
      · next n exponent hfixed =>
        cases h
        obtain ⟨places, rfl, hwrites⟩ := fixed?_eq_some_iff.1 hfixed
        exact ⟨negative, n, places, ⟨cs, rfl, hwrites⟩, rfl⟩
      · cases h
    · rintro ⟨_, n, places, ⟨_, ⟨⟩, hwrites⟩, rfl⟩
      rw [fixed?_eq_some_iff.2 ⟨places, rfl, hwrites⟩]

/-- The reader that also knows exponents and words reads them as the same numbers. -/
theorem ofText?_of_writesDecimal (h : WritesDecimal text negative n places) :
    ofText? text = some (ofDecimal negative n (-(places : Int))) := by
  obtain ⟨cs, hsplit, hwrites⟩ := writesDecimal_iff.1 h
  have hword {word : String} {d : Char} {rest : List Char} (hd : word.toList = d :: rest)
      (hletter : ¬ (d.isDigit ∨ d = '.')) : String.ofList (cs.map Char.toLower) ≠ word := by
    rintro rfl
    obtain ⟨c, front, rfl, hc⟩ := hwrites.exists_cons
    rw [String.toList_ofList, List.map_cons] at hd
    cases hd
    have hupper : c.isUpper = false := by
      rcases hc with hc | rfl
      · exact isUpper_of_isDigit hc
      · decide
    rw [toLower_of_isUpper hupper] at hletter
    exact hletter hc
  unfold ofText?
  rw [hsplit]
  dsimp only
  split
  · next heq => exact absurd heq (hword (d := 'n') rfl (by decide))
  · next heq => exact absurd heq (hword (d := 'i') rfl (by decide))
  · next heq => exact absurd heq (hword (d := 'i') rfl (by decide))
  · rw [fixed?_eq_some_iff.2 ⟨places, rfl, hwrites⟩]
    exact congrArg (fun exponent => some (ofDecimal negative n exponent)) (Int.add_zero _)

end Binary64
end FilterQuery
