import FilterQuery.Binary64.Stepwise
import FilterQuery.Json

/-!
# The tokens of a JSON text

* `JsonToken` : a bracket, a mark, a literal, or the place where the text stops being JSON;
* `JsonToken.scan` : the tokens of a text, up to its first malformed one.
-/

set_option autoImplicit false

namespace FilterQuery

/-- A token of a JSON text. -/
inductive JsonToken where
  | openBrace | closeBrace | openBracket | closeBracket | colon | comma
  | null
  | boolean (b : Bool)
  | number (n : JsonNumber)
  | string (s : String)
  /-- What stands here is no token. -/
  | malformed
deriving DecidableEq, Repr

namespace JsonToken

/-! ### Strings -/

/-- The value of a hexadecimal digit. -/
def hexValue? (c : Char) : Option Nat :=
  if c.isDigit then some (c.toNat - '0'.toNat)
  else if 'a' ≤ c ∧ c ≤ 'f' then some (c.toNat - 'a'.toNat + 10)
  else if 'A' ≤ c ∧ c ≤ 'F' then some (c.toNat - 'A'.toNat + 10)
  else none

/-- Four hexadecimal digits. -/
def codeUnit? : List Char → Option (Nat × List Char)
  | a :: b :: c :: d :: rest => do
    let a ← hexValue? a
    let b ← hexValue? b
    let c ← hexValue? c
    let d ← hexValue? d
    return (((a * 16 + b) * 16 + c) * 16 + d, rest)
  | _ => none

/-- The character that four hexadecimal digits write, or eight in two escapes when the first four
are the leading half of a pair. -/
def codePoint? (cs : List Char) : Option (Char × List Char) := do
  let (n, rest) ← codeUnit? cs
  if n < 0xD800 ∨ 0xE000 ≤ n then return (Char.ofNat n, rest)
  else if 0xDC00 ≤ n then none
  else match rest with
    | '\\' :: 'u' :: more => do
      let (low, rest) ← codeUnit? more
      if 0xDC00 ≤ low ∧ low < 0xE000 then
        return (Char.ofNat (0x10000 + (n - 0xD800) * 0x400 + (low - 0xDC00)), rest)
      else none
    | _ => none

/-- The character that stands after a backslash. -/
def escaped? : List Char → Option (Char × List Char)
  | '"' :: r => some ('"', r)
  | '\\' :: r => some ('\\', r)
  | '/' :: r => some ('/', r)
  | 'b' :: r => some ('\x08', r)
  | 'f' :: r => some ('\x0c', r)
  | 'n' :: r => some ('\n', r)
  | 'r' :: r => some ('\r', r)
  | 't' :: r => some ('\t', r)
  | 'u' :: r => codePoint? r
  | _ => none

theorem length_codeUnit? {cs rest : List Char} {n : Nat} (h : codeUnit? cs = some (n, rest)) :
    rest.length < cs.length := by
  unfold codeUnit? at h
  split at h
  · simp only [Option.bind_eq_bind, Option.bind_eq_some_iff] at h
    obtain ⟨_, _, _, _, _, _, _, _, h⟩ := h
    simp only [Option.pure_def, Option.some.injEq, Prod.mk.injEq] at h
    simp only [← h.2, List.length_cons]
    omega
  · cases h

theorem length_codePoint? {cs rest : List Char} {c : Char} (h : codePoint? cs = some (c, rest)) :
    rest.length < cs.length := by
  simp only [codePoint?, Option.bind_eq_bind, Option.bind_eq_some_iff] at h
  obtain ⟨⟨n, more⟩, first, h⟩ := h
  have := length_codeUnit? first
  dsimp only at h
  split at h
  · simp only [Option.pure_def, Option.some.injEq, Prod.mk.injEq] at h
    exact h.2 ▸ this
  · split at h
    · cases h
    · split at h
      · obtain ⟨⟨low, last⟩, second, h⟩ := Option.bind_eq_some_iff.1 h
        have := length_codeUnit? second
        dsimp only at h
        split at h
        · simp only [Option.pure_def, Option.some.injEq, Prod.mk.injEq] at h
          simp only [List.length_cons, h.2] at *
          omega
        · cases h
      · cases h

theorem length_escaped? {cs rest : List Char} {c : Char} (h : escaped? cs = some (c, rest)) :
    rest.length < cs.length := by
  unfold escaped? at h
  split at h
  case h_9 => have := length_codePoint? h; simp only [List.length_cons]; omega
  case h_10 => cases h
  all_goals
    simp only [Option.some.injEq, Prod.mk.injEq] at h
    simp [← h.2]

/-- The rest of a string up to its closing quote, after the characters `read`, the last one
first. -/
def string? (read : List Char) (cs : List Char) : Option (List Char × List Char) :=
  match cs with
  | [] => none
  | '"' :: r => some (read.reverse, r)
  | '\\' :: r =>
    match _ : escaped? r with
    | some (c, rest) => string? (c :: read) rest
    | none => none
  | c :: r => if c.toNat < 0x20 then none else string? (c :: read) r
termination_by cs.length
decreasing_by
  · have := length_escaped? (by assumption); simp only [List.length_cons]; omega
  · simp

theorem length_string? (read cs : List Char) {s rest : List Char}
    (h : string? read cs = some (s, rest)) : rest.length < cs.length := by
  fun_induction string? read cs with
  | case1 => cases h
  | case2 read r => simp_all
  | case3 read r c rest' e ih =>
    have := ih h
    have := length_escaped? e
    simp only [List.length_cons]
    omega
  | case4 => cases h
  | case5 => cases h
  | case6 read c r _ _ _ ih =>
    have := ih h
    simp only [List.length_cons]
    omega

/-! ### Numbers -/

/-- The digits after a point, if there is one; there must be one digit then. -/
def fraction? : List Char → Option (List Char × List Char)
  | '.' :: r =>
    let digits := r.takeWhile Char.isDigit
    if digits = [] then none else some (digits, r.dropWhile Char.isDigit)
  | cs => some ([], cs)

/-- The exponent after its mark, if there is one; there must be one digit then. -/
def exponent? : List Char → Option (Option Int × List Char)
  | [] => some (none, [])
  | c :: r =>
    if c = 'e' ∨ c = 'E' then
      let (negative, r) := splitSign r
      let digits := r.takeWhile Char.isDigit
      let n := digitsValue digits
      if digits = [] then none
      else some (some (if negative then -(n : Int) else n), r.dropWhile Char.isDigit)
    else some (none, c :: r)

/-- The number that is written with these parts: an integer if there is neither fraction nor
exponent and it fits into 64 bits, but for minus zero; else a floating-point number, which must be
finite. -/
def numberOf? (rounding : Rounding) (negative : Bool) (whole fraction : List Char)
    (exponent : Option Int) : Option JsonNumber :=
  let n := digitsValue whole
  if fraction = [] ∧ exponent = none ∧ ! negative ∧ n < UInt64.size then some (.integer n)
  else if fraction = [] ∧ exponent = none ∧ negative ∧ 0 < n ∧ Int64.minValue.toInt ≤ -n then
    some (.integer (-n))
  else
    let x := rounding.round negative whole fraction (exponent.getD 0)
    if x.isFinite then some (.decimal x) else none

/-- Splits off a leading minus. -/
def splitMinus : List Char → Bool × List Char
  | '-' :: r => (true, r)
  | r => (false, r)

/-- A number at the start of a text. -/
def number? (rounding : Rounding) (cs : List Char) : Option (JsonNumber × List Char) := do
  let r := (splitMinus cs).2
  let whole := r.takeWhile Char.isDigit
  if whole = [] ∨ (whole.head? = some '0' ∧ whole ≠ ['0']) then none
  else
    let (fraction, r) ← fraction? (r.dropWhile Char.isDigit)
    let (exponent, r) ← exponent? r
    return (← numberOf? rounding (splitMinus cs).1 whole fraction exponent, r)

theorem length_dropWhile_le (p : Char → Bool) (cs : List Char) :
    (cs.dropWhile p).length ≤ cs.length := (List.dropWhile_suffix p).length_le

theorem length_splitSign_le (cs : List Char) : (splitSign cs).2.length ≤ cs.length := by
  unfold splitSign; split <;> simp

theorem length_fraction? {cs digits rest : List Char} (h : fraction? cs = some (digits, rest)) :
    rest.length ≤ cs.length := by
  unfold fraction? at h
  split at h
  · next r =>
    dsimp only at h
    split at h
    · cases h
    · simp only [Option.some.injEq, Prod.mk.injEq] at h
      have := length_dropWhile_le Char.isDigit r
      simp only [← h.2, List.length_cons]
      omega
  · simp_all

theorem length_exponent? {cs rest : List Char} {n : Option Int}
    (h : exponent? cs = some (n, rest)) : rest.length ≤ cs.length := by
  unfold exponent? at h
  split at h
  · simp_all
  · next c r =>
    split at h
    · dsimp only at h
      split at h
      · cases h
      · simp only [Option.some.injEq, Prod.mk.injEq] at h
        have := length_dropWhile_le Char.isDigit (splitSign r).2
        have := length_splitSign_le r
        simp only [← h.2, List.length_cons]
        omega
    · simp_all

theorem length_number? {rounding : Rounding} {cs rest : List Char} {n : JsonNumber}
    (h : number? rounding cs = some (n, rest)) : rest.length < cs.length := by
  unfold number? at h
  dsimp only at h
  split at h
  · cases h
  · next hw =>
    simp only [Option.bind_eq_bind, Option.bind_eq_some_iff] at h
    obtain ⟨⟨f, r1⟩, hf, ⟨e, r2⟩, he, n', _, h⟩ := h
    simp only [Option.pure_def, Option.some.injEq, Prod.mk.injEq] at h
    have h1 := length_fraction? hf
    have h2 := length_exponent? he
    have h3 : ((splitMinus cs).2.dropWhile Char.isDigit).length < (splitMinus cs).2.length := by
      have hlen := congrArg List.length
        (List.takeWhile_append_dropWhile (p := Char.isDigit) (l := (splitMinus cs).2))
      have hne : 0 < ((splitMinus cs).2.takeWhile Char.isDigit).length :=
        List.length_pos_iff.2 fun hnil => hw (.inl hnil)
      simp only [List.length_append] at hlen
      omega
    have h4 : (splitMinus cs).2.length ≤ cs.length := by
      unfold splitMinus; split <;> simp
    rw [← h.2]
    dsimp only at h1 h2
    omega

/-! ### The whole text -/

/-- What follows `word` at the start of a text. -/
def after? : List Char → List Char → Option (List Char)
  | [], cs => some cs
  | w :: ws, c :: cs => if w = c then after? ws cs else none
  | _ :: _, [] => none

theorem length_after? {word cs rest : List Char} (h : after? word cs = some rest) :
    rest.length ≤ cs.length := by
  induction word generalizing cs with
  | nil => simp_all [after?]
  | cons w ws ih =>
    cases cs with
    | nil => cases h
    | cons c cs =>
      simp only [after?] at h
      split at h
      · have := ih h; simp only [List.length_cons]; omega
      · cases h

/-- The literal that starts with `c`, and what follows it. -/
def literal? (rounding : Rounding) (c : Char) (r : List Char) : Option (JsonToken × List Char) :=
  if c = '"' then (string? [] r).map fun (s, rest) => (string (String.ofList s), rest)
  else if c = 't' then (after? ['r', 'u', 'e'] r).map (boolean true, ·)
  else if c = 'f' then (after? ['a', 'l', 's', 'e'] r).map (boolean false, ·)
  else if c = 'n' then (after? ['u', 'l', 'l'] r).map (null, ·)
  else (number? rounding (c :: r)).map fun (n, rest) => (number n, rest)

theorem length_literal? {rounding : Rounding} {c : Char} {r rest : List Char} {t : JsonToken}
    (h : literal? rounding c r = some (t, rest)) : rest.length < r.length + 1 := by
  unfold literal? at h
  split at h
  · obtain ⟨⟨s, r'⟩, hs, h⟩ := Option.map_eq_some_iff.1 h
    have := length_string? _ _ hs
    simp_all only [Prod.mk.injEq]; omega
  · split at h
    · obtain ⟨r', hs, h⟩ := Option.map_eq_some_iff.1 h
      have := length_after? hs; simp_all only [Prod.mk.injEq]; omega
    · split at h
      · obtain ⟨r', hs, h⟩ := Option.map_eq_some_iff.1 h
        have := length_after? hs; simp_all only [Prod.mk.injEq]; omega
      · split at h
        · obtain ⟨r', hs, h⟩ := Option.map_eq_some_iff.1 h
          have := length_after? hs; simp_all only [Prod.mk.injEq]; omega
        · obtain ⟨⟨n, r'⟩, hs, h⟩ := Option.map_eq_some_iff.1 h
          have := length_number? hs
          simp_all only [Prod.mk.injEq, List.length_cons]

/-- A bracket or a mark. -/
def punctuation? (c : Char) : Option JsonToken :=
  if c = '\x7b' then some openBrace
  else if c = '\x7d' then some closeBrace
  else if c = '[' then some openBracket
  else if c = ']' then some closeBracket
  else if c = ':' then some colon
  else if c = ',' then some comma
  else none

/-- Whether `c` may stand between tokens. -/
def isGap (c : Char) : Bool := c = ' ' || c = '\n' || c = '\t' || c = '\r'

/-- The tokens of a text, up to the first place where there is none. -/
def scan (rounding : Rounding) (cs : List Char) : List JsonToken :=
  match cs with
  | [] => []
  | c :: r =>
    if isGap c then scan rounding r
    else match punctuation? c with
      | some t => t :: scan rounding r
      | none =>
        match _ : literal? rounding c r with
        | some (t, rest) => t :: scan rounding rest
        | none => [malformed]
termination_by cs.length
decreasing_by
  · simp
  · simp
  · exact length_literal? (by assumption)

end JsonToken
end FilterQuery
