import FilterQuery.Json.Text
import FilterQuery.Json.Token
import FilterQuery.Proofs.Binary64.Nearest
import FilterQuery.Proofs.Binary64.Plain
import FilterQuery.Proofs.Digits

/-!
# The numbers of JSON

The text of a number is a numeral, which ends where no numeral can go on, and what it says if each decimal
is taken for the nearest floating-point number is the number itself.

* `WritesNumeral` : a sign, digits, a fraction and an exponent, and their texts;
* `number?_of_writes` : a numeral is read up to what `EndsNumeral` allows behind it;
* `JsonNumber.IsInRange` : the numbers that a text can give, and `isInRange_of_numberOf?`;
* `JsonNumber.exists_numeral`, `IsInRange.isReadBack` : their texts are numerals, and are read back.
-/

set_option autoImplicit false

namespace FilterQuery

open Binary64 (signText)

/-! ### Numerals -/

namespace JsonToken

/-- Digits, one at least; no zero stands in front of others. -/
structure IsWhole (cs : List Char) : Prop where
  ne_nil : cs ≠ []
  isDigit : ∀ c ∈ cs, c.isDigit
  zero : cs.head? = some '0' → cs = ['0']

/-- The texts of a fraction. -/
inductive WritesFraction : List Char → (digits : List Char) → Prop
  | none : WritesFraction [] []
  | point {digits : List Char} : digits ≠ [] → (∀ c ∈ digits, c.isDigit) →
      WritesFraction ('.' :: digits) digits

/-- The texts of an exponent. -/
inductive WritesExponent : List Char → Option Int → Prop
  | none : WritesExponent [] none
  | mark {e : Int} : WritesExponent ('e' :: exponentText e) (some e)

/-- A number with its parts. -/
inductive WritesNumeral : List Char → (negative : Bool) → (whole fraction : List Char) →
    (exponent : Option Int) → Prop
  | intro {negative : Bool} {whole f fraction e : List Char} {exponent : Option Int} : IsWhole whole →
      WritesFraction f fraction → WritesExponent e exponent →
      WritesNumeral (signText negative ++ (whole ++ (f ++ e))) negative whole fraction exponent

theorem WritesNumeral.exists_cons {text whole fraction : List Char} {negative : Bool}
    {exponent : Option Int} (h : WritesNumeral text negative whole fraction exponent) :
    ∃ c r, text = c :: r ∧ (c = '-' ∨ c.isDigit) := by
  obtain ⟨hwhole, -, -⟩ := h
  obtain ⟨c, cs, rfl⟩ := List.exists_cons_of_ne_nil hwhole.ne_nil
  cases negative with
  | true => exact ⟨_, _, rfl, .inl rfl⟩
  | false => exact ⟨_, _, rfl, .inr (hwhole.isDigit c List.mem_cons_self)⟩

/-- What stands behind a number is no part of it. -/
def EndsNumeral (rest : List Char) : Prop :=
  ∀ c ∈ rest.head?, c.isDigit = false ∧ c ≠ '.' ∧ c ≠ 'e' ∧ c ≠ 'E'

theorem endsNumeral_nil : EndsNumeral [] := by
  rintro c ⟨⟩

/-! ### Reading numerals -/

theorem exponent?_of_writes {e rest : List Char} {exponent : Option Int}
    (h : WritesExponent e exponent) (hr : EndsNumeral rest) :
    exponent? (e ++ rest) = some (exponent, rest) := by
  cases h with
  | none =>
    cases rest with
    | nil => rfl
    | cons c rest =>
      obtain ⟨-, -, hsmall, hcapital⟩ := hr c rfl
      rw [List.nil_append, exponent?, if_neg (by simp [hsmall, hcapital])]
  | @mark e =>
    have hdigits : ∀ c ∈ Nat.toDigits 10 e.natAbs, c.isDigit := fun c => isDigit_toDigits
    have hstop : ∀ c ∈ rest.head?, c.isDigit = false := fun c hc => (hr c hc).1
    have hsign : splitSign (exponentText e ++ rest) =
        (decide (e < 0), Nat.toDigits 10 e.natAbs ++ rest) := by
      unfold exponentText
      by_cases he : e < 0
      · rw [if_pos he, decide_eq_true he]
        rfl
      · rw [if_neg he, decide_eq_false he]
        rfl
    rw [List.cons_append, exponent?, if_pos (.inl rfl), hsign]
    dsimp only
    rw [takeWhile_append_of_stop hdigits hstop, dropWhile_append_of_stop hdigits hstop,
      if_neg Nat.toDigits_ne_nil, digitsValue_toDigits]
    have hvalue := Binary64.signed_natAbs e
    unfold Binary64.signed at hvalue
    rw [hvalue]

theorem head?_exponent {e rest : List Char} {exponent : Option Int} (h : WritesExponent e exponent)
    (hr : EndsNumeral rest) : ∀ c ∈ (e ++ rest).head?, c.isDigit = false ∧ c ≠ '.' := by
  intro c hc
  cases h with
  | none => exact ⟨(hr c hc).1, (hr c hc).2.1⟩
  | mark =>
    cases hc
    decide

theorem fraction?_of_writes {f fraction rest : List Char} (h : WritesFraction f fraction)
    (hr : ∀ c ∈ rest.head?, c.isDigit = false ∧ c ≠ '.') :
    fraction? (f ++ rest) = some (fraction, rest) := by
  cases h with
  | none =>
    rw [List.nil_append, fraction?.eq_def]
    split
    · exact absurd rfl (hr '.' rfl).2
    · rfl
  | point hne hdigits =>
    have hstop : ∀ c ∈ rest.head?, c.isDigit = false := fun c hc => (hr c hc).1
    rw [List.cons_append, fraction?, takeWhile_append_of_stop hdigits hstop,
      dropWhile_append_of_stop hdigits hstop, if_neg hne]

theorem head?_fraction {f fraction rest : List Char} (h : WritesFraction f fraction)
    (hr : ∀ c ∈ rest.head?, c.isDigit = false ∧ c ≠ '.') :
    ∀ c ∈ (f ++ rest).head?, c.isDigit = false := by
  intro c hc
  cases h with
  | none => exact (hr c hc).1
  | point =>
    cases hc
    decide

theorem splitMinus_signText (negative : Bool) {cs : List Char} (h : ∀ c ∈ cs.head?, c.isDigit) :
    splitMinus (signText negative ++ cs) = (negative, cs) := by
  cases negative with
  | true => rfl
  | false =>
    show splitMinus cs = (false, cs)
    unfold splitMinus
    split
    · exact absurd (h '-' rfl) (by decide)
    · rfl

/-- A numeral is read up to its end, as the number of its parts. -/
theorem number?_of_writes {text whole fraction rest : List Char} {negative : Bool}
    {exponent : Option Int} (h : WritesNumeral text negative whole fraction exponent)
    (hr : EndsNumeral rest) (rounding : Rounding) : number? rounding (text ++ rest) =
      (numberOf? rounding negative whole fraction exponent).map (·, rest) := by
  obtain @⟨_, _, f, _, e, _, hw, hf, he⟩ := h
  have hexponent := head?_exponent he hr
  have hfraction := head?_fraction hf hexponent
  have hhead : ∀ c ∈ (whole ++ (f ++ (e ++ rest))).head?, c.isDigit := by
    intro c hc
    rw [List.head?_append_of_ne_nil _ hw.ne_nil] at hc
    exact hw.isDigit c (List.mem_of_mem_head? hc)
  have hzero : ¬ (whole = [] ∨ whole.head? = some '0' ∧ whole ≠ ['0']) := by
    rintro (hnil | ⟨hzero, hne⟩)
    · exact hw.ne_nil hnil
    · exact hne (hw.zero hzero)
  rw [List.append_assoc, List.append_assoc, List.append_assoc, number?, splitMinus_signText _ hhead]
  dsimp only
  rw [takeWhile_append_of_stop hw.isDigit hfraction, dropWhile_append_of_stop hw.isDigit hfraction,
    if_neg hzero, fraction?_of_writes hf hexponent]
  dsimp only [Option.bind_eq_bind, Option.bind_some]
  rw [exponent?_of_writes he hr]
  dsimp only [Option.bind_some]
  cases numberOf? rounding negative whole fraction exponent <;> rfl

end JsonToken

/-! ### The range of numbers -/

/-- An integer of 64 bits, with or without sign, or a finite floating-point number. -/
def JsonNumber.IsInRange : JsonNumber → Prop
  | integer n => Int64.minValue.toInt ≤ n ∧ n < UInt64.size
  | decimal x => x.isFinite

theorem JsonToken.isInRange_of_numberOf? {rounding : Rounding} {negative : Bool}
    {whole fraction : List Char} {exponent : Option Int} {n : JsonNumber}
    (h : numberOf? rounding negative whole fraction exponent = some n) : n.IsInRange := by
  unfold numberOf? at h
  dsimp only at h
  split at h
  · next hnat =>
    cases h
    exact ⟨Int.le_trans (by decide) (Int.natCast_nonneg _), Int.ofNat_lt.2 hnat.2.2.2⟩
  · split at h
    · next hneg =>
      cases h
      obtain ⟨-, -, -, -, hmin⟩ := hneg
      exact ⟨hmin, Int.lt_of_le_of_lt (Int.neg_nonpos_of_nonneg (Int.natCast_nonneg _)) (by decide)⟩
    · split at h
      · next hfinite =>
        cases h
        exact hfinite
      · cases h

/-! ### The texts of integers -/

open JsonToken

theorem isWhole_toDigits (n : Nat) : IsWhole (Nat.toDigits 10 n) := by
  refine ⟨Nat.toDigits_ne_nil, fun c => isDigit_toDigits, fun hzero => ?_⟩
  rcases Nat.eq_zero_or_pos n with rfl | hn
  · rfl
  · exact absurd hzero (head?_toDigits hn)

theorem writesNumeral_integer (n : Int) : WritesNumeral (JsonNumber.integer n).text (n < 0)
    (Nat.toDigits 10 n.natAbs) [] none := by
  have h := @WritesNumeral.intro (n < 0) _ _ _ _ _ (isWhole_toDigits n.natAbs) .none .none
  rw [List.append_nil, List.append_nil, ← toList_toString_int] at h
  exact h

theorem numberOf?_integer {n : Int} (h : (JsonNumber.integer n).IsInRange) (rounding : Rounding) :
    numberOf? rounding (n < 0) (Nat.toDigits 10 n.natAbs) [] none = some (.integer n) := by
  obtain ⟨hmin, hmax⟩ := h
  unfold numberOf?
  rw [digitsValue_toDigits]
  dsimp only
  by_cases hn : n < 0
  · have habs : -(n.natAbs : Int) = n := by omega
    have hpos : 0 < n.natAbs := by omega
    rw [decide_eq_true hn, habs, if_neg (by simp), if_pos ⟨rfl, rfl, rfl, hpos, hmin⟩]
  · have habs : (n.natAbs : Int) = n := by omega
    have hlt : n.natAbs < UInt64.size := by omega
    rw [decide_eq_false hn, habs, if_pos ⟨rfl, rfl, rfl, hlt⟩]

/-! ### The texts of decimals -/

/-- The text is a numeral without sign of the value `v`, and not that of an integer. -/
inductive WritesMagnitude : List Char → (v : ℚ) → Prop
  | intro {whole f fraction e : List Char} {exponent : Option Int} : IsWhole whole →
      WritesFraction f fraction → WritesExponent e exponent → (fraction = [] → exponent ≠ none) →
      WritesMagnitude (whole ++ (f ++ e))
        (digitsValue (whole ++ fraction) * 10 ^ (exponent.getD 0 - fraction.length))

theorem writesMagnitude_point {whole digits : List Char} (hwhole : IsWhole whole) (hne : digits ≠ [])
    (hdigits : ∀ c ∈ digits, c.isDigit) : WritesMagnitude (whole ++ '.' :: digits)
      (digitsValue (whole ++ digits) * 10 ^ (-(digits.length : Int))) := by
  have h := WritesMagnitude.intro hwhole (.point hne hdigits) .none (absurd · hne)
  rw [List.append_nil, Option.getD_none, Int.zero_sub] at h
  exact h

theorem writesMagnitude_pointZero {whole : List Char} (h : IsWhole whole) :
    WritesMagnitude (whole ++ ['.', '0']) (digitsValue (whole ++ ['0']) * 10 ^ (-1 : Int)) :=
  writesMagnitude_point h (List.cons_ne_nil '0' []) (List.forall_mem_singleton.2 (by decide))

theorem writesMagnitude_zero : WritesMagnitude ['0', '.', '0'] 0 := by
  have h := writesMagnitude_pointZero (isWhole_toDigits 0)
  have hvalue : digitsValue (Nat.toDigits 10 0 ++ ['0']) = 0 := by decide
  rw [hvalue, Nat.cast_zero, zero_mul] at h
  exact h

/-- Where there is no point of its own, `.0` stands behind the digits. -/
theorem writesMagnitude_positional_of_nonneg {digits : Nat} {exponent : Int} (h : 0 < digits)
    (he : 0 ≤ exponent) :
    WritesMagnitude (positional digits exponent ++ ['.', '0']) (digits * 10 ^ exponent) := by
  obtain ⟨n, rfl⟩ := Int.eq_ofNat_of_zero_le he
  have htext : positional digits n = Nat.toDigits 10 digits ++ List.replicate n '0' := by
    unfold positional
    rw [if_pos (by omega), Int.toNat_natCast]
  have hwhole : IsWhole (Nat.toDigits 10 digits ++ List.replicate n '0') := by
    refine ⟨by simp [Nat.toDigits_ne_nil], fun c hc => ?_, fun hzero => ?_⟩
    · rcases List.mem_append.1 hc with hc | hc
      · exact isDigit_toDigits hc
      · exact isDigit_zeros hc
    · rw [List.head?_append_of_ne_nil _ Nat.toDigits_ne_nil] at hzero
      exact absurd hzero (head?_toDigits h)
  have hvalue : (digitsValue (Nat.toDigits 10 digits ++ List.replicate n '0' ++ ['0']) : ℚ) *
      10 ^ (-1 : Int) = digits * 10 ^ (n : Int) := by
    have hzeros : Nat.toDigits 10 digits ++ List.replicate n '0' ++ ['0'] =
        Nat.toDigits 10 digits ++ List.replicate (n + 1) '0' := by
      rw [List.append_assoc, List.replicate_succ']
    rw [hzeros, zpow_neg_one, zpow_natCast, digitsValue_append, digitsValue_zeros,
      digitsValue_toDigits, List.length_replicate]
    push_cast
    ring
  rw [htext, ← hvalue]
  exact writesMagnitude_pointZero hwhole

/-- Digits that are filled up with zeros, with a point before the last `places` of them. -/
theorem writesMagnitude_split {digits places : Nat} (h : 0 < digits) (hplaces : 0 < places)
    {text : List Char}
    (htext : text = List.replicate (places + 1 - (Nat.toDigits 10 digits).length) '0' ++
      Nat.toDigits 10 digits) :
    WritesMagnitude (text.take (text.length - places) ++ '.' :: text.drop (text.length - places))
      (digits * 10 ^ (-(places : Int))) := by
  have hlen : text.length - places = max 1 ((Nat.toDigits 10 digits).length - places) := by
    rw [htext, List.length_append, List.length_replicate]
    omega
  have hle : places < text.length := by
    rw [htext, List.length_append, List.length_replicate]
    omega
  have hdigits : ∀ c ∈ text, c.isDigit := by
    rw [htext]
    intro c hc
    rcases List.mem_append.1 hc with hc | hc
    · exact isDigit_zeros hc
    · exact isDigit_toDigits hc
  have hwhole : IsWhole (text.take (text.length - places)) := by
    refine ⟨?_, fun c hc => hdigits c (List.mem_of_mem_take hc), fun hzero => ?_⟩
    · rw [← List.length_pos_iff, List.length_take]
      omega
    · by_cases hshort : (Nat.toDigits 10 digits).length ≤ places
      · -- a single zero stands before the point
        obtain ⟨k, hk⟩ : ∃ k, places + 1 - (Nat.toDigits 10 digits).length = k + 1 :=
          ⟨places - (Nat.toDigits 10 digits).length, by omega⟩
        have hone : max 1 ((Nat.toDigits 10 digits).length - places) = 1 := by omega
        rw [hlen, hone, htext, hk]
        rfl
      · have hnone : places + 1 - (Nat.toDigits 10 digits).length = 0 := by omega
        rw [hnone, List.replicate_zero, List.nil_append] at htext
        rw [List.head?_take, if_neg (by omega), htext] at hzero
        exact absurd hzero (head?_toDigits h)
  have hfraction : (text.drop (text.length - places)).length = places := by
    rw [List.length_drop]
    omega
  have hne : text.drop (text.length - places) ≠ [] := by
    rw [← List.length_pos_iff, hfraction]
    exact hplaces
  have hmagnitude := writesMagnitude_point hwhole hne fun c hc => hdigits c (List.mem_of_mem_drop hc)
  have hvalue : digitsValue text = digits := by
    rw [htext, digitsValue_append, digitsValue_zeros, digitsValue_toDigits, Nat.mul_zero, Nat.zero_add]
  rw [List.take_append_drop, hvalue, hfraction] at hmagnitude
  exact hmagnitude

theorem writesMagnitude_positional_of_neg {digits : Nat} {exponent : Int} (h : 0 < digits)
    (he : exponent < 0) : WritesMagnitude (positional digits exponent) (digits * 10 ^ exponent) := by
  obtain ⟨places, hplaces⟩ : ∃ places : Nat, exponent = -(places : Int) :=
    ⟨(-exponent).toNat, by omega⟩
  have hnat : (-exponent).toNat = places := by omega
  unfold positional
  rw [hnat, hplaces]
  dsimp only
  rw [if_neg (by omega)]
  exact writesMagnitude_split h (by omega) rfl

theorem writesMagnitude_scientific {digits : Nat} (exponent : Int) :
    WritesMagnitude (scientific digits exponent) (digits * 10 ^ exponent) := by
  obtain ⟨c, cs, hcs⟩ := List.exists_cons_of_ne_nil (Nat.toDigits_ne_nil (b := 10) (n := digits))
  have hdigits : ∀ d ∈ c :: cs, d.isDigit := by
    rw [← hcs]
    exact fun d => isDigit_toDigits
  obtain ⟨hc, hrest⟩ := List.forall_mem_cons.1 hdigits
  have hwhole : IsWhole [c] := by
    refine ⟨List.cons_ne_nil _ _, List.forall_mem_singleton.2 hc, fun hzero => ?_⟩
    rw [Option.some.inj hzero]
  have hfraction : WritesFraction ((if (c :: cs).length = 1 then [] else ['.']) ++ cs) cs := by
    cases cs with
    | nil => exact .none
    | cons d cs => exact .point (List.cons_ne_nil _ _) hrest
  have hmagnitude := WritesMagnitude.intro hwhole hfraction
    (@WritesExponent.mark (exponent + ((c :: cs).length - 1 : Nat))) nofun
  have hvalue : digitsValue ([c] ++ cs) = digits := by
    rw [List.singleton_append, ← hcs, digitsValue_toDigits]
  have hexponent : exponent + ((c :: cs).length - 1 : Nat) - cs.length = exponent := by
    rw [List.length_cons, Nat.add_sub_cancel, Int.add_sub_cancel]
  rw [hvalue, Option.getD_some, hexponent] at hmagnitude
  unfold scientific
  rw [hcs]
  dsimp only
  rw [List.append_assoc (List.take 1 (c :: cs)), List.append_assoc (List.take 1 (c :: cs))]
  exact hmagnitude

/-- The notation depends on where the point comes to stand. -/
theorem writesMagnitude_notation {digits : Nat} (exponent : Int) (h : 0 < digits) :
    let point := (Nat.toDigits 10 digits).length + exponent
    WritesMagnitude
      (if -5 < point && point ≤ 16 then
        positional digits exponent ++ if 0 ≤ exponent then ['.', '0'] else []
      else scientific digits exponent) (digits * 10 ^ exponent) := by
  dsimp only
  split
  · split
    · next he => exact writesMagnitude_positional_of_nonneg h he
    · next he =>
      rw [List.append_nil]
      exact writesMagnitude_positional_of_neg h (Int.not_le.1 he)
  · exact writesMagnitude_scientific exponent

theorem Binary64.ofDecimal_congr {negative : Bool} {digits digits' : Nat} {exponent exponent' : Int}
    (h : (digits : ℚ) * 10 ^ exponent = digits' * 10 ^ exponent') :
    ofDecimal negative digits exponent = ofDecimal negative digits' exponent' := by
  rw [eq_ofDecimal_iff, ← h]
  exact eq_ofDecimal_iff.1 rfl

/-- A finite number is written as its sign and a numeral whose value is nearest to it. -/
theorem Binary64.exists_writesMagnitude (negative : Bool) (m : Magnitude) : ∃ text digits exponent,
    jsonText (finite negative m) = signText negative ++ text ∧
      WritesMagnitude text ((digits : Nat) * 10 ^ (exponent : Int)) ∧
      ofDecimal negative digits exponent = finite negative m := by
  by_cases h : m.significand = 0
  · refine ⟨['0', '.', '0'], 0, 0, ?_, ?_, ?_⟩
    · rw [jsonText, if_pos h]
    · rw [Nat.cast_zero, zero_mul]
      exact writesMagnitude_zero
    · rw [ofDecimal, Magnitude.ofDecimal, if_pos rfl, Magnitude.eq_zero h]
      rfl
  · obtain ⟨hread, -, -⟩ := Magnitude.shortest_isReadFrom .even h
    obtain ⟨hpos, hm⟩ := Magnitude.isReadFrom_iff.1 hread
    refine ⟨_, _, _, ?_, writesMagnitude_notation (m.shortest .even).2 hpos, ?_⟩
    · rw [jsonText, if_neg h]
    · rw [ofDecimal, hm]
      rfl

/-! ### Numbers read back -/

namespace JsonNumber

/-- The text of a number is a numeral that says the number, unless there is no such text. -/
theorem exists_numeral (n : JsonNumber) : ¬ n.IsInRange ∧ n.text = ['n', 'u', 'l', 'l'] ∨
    ∃ negative whole fraction exponent, WritesNumeral n.text negative whole fraction exponent ∧
      (n.IsInRange → numberOf? .nearest negative whole fraction exponent = some n) := by
  cases n with
  | integer n => exact .inr ⟨_, _, _, _, writesNumeral_integer n, fun h => numberOf?_integer h _⟩
  | decimal x =>
    cases x with
    | nan => exact .inl ⟨Bool.false_ne_true, rfl⟩
    | infinite negative => exact .inl ⟨Bool.false_ne_true, rfl⟩
    | finite negative m =>
      obtain ⟨text, digits, exponent, htext, hwrites, hread⟩ :=
        Binary64.exists_writesMagnitude negative m
      generalize hv : (digits : ℚ) * 10 ^ exponent = v at hwrites
      obtain @⟨whole, f, fraction, e, exponent', hw, hf, he, hmagnitude⟩ := hwrites
      refine .inr ⟨negative, whole, fraction, exponent', ?_, fun _ => ?_⟩
      · rw [text, htext]
        exact .intro hw hf he
      · have hround : Rounding.round negative whole fraction (exponent'.getD 0) .nearest =
            .finite negative m := by
          rw [Rounding.round, ← hread]
          exact (Binary64.ofDecimal_congr hv).symm
        unfold numberOf?
        dsimp only
        rw [if_neg fun h => hmagnitude h.1 h.2.1, if_neg fun h => hmagnitude h.1 h.2.1, hround]
        rfl

/-- The number is read back from its text. -/
def IsReadBack (rounding : Rounding) (n : JsonNumber) : Prop :=
  number? rounding n.text = some (n, [])

theorem IsReadBack.exists_numeral {rounding : Rounding} {n : JsonNumber} (h : n.IsReadBack rounding) :
    ∃ negative whole fraction exponent, WritesNumeral n.text negative whole fraction exponent ∧
      numberOf? rounding negative whole fraction exponent = some n := by
  unfold IsReadBack at h
  rcases n.exists_numeral with ⟨-, htext⟩ | ⟨negative, whole, fraction, exponent, hwrites, -⟩
  · rw [htext] at h
    cases h
  · have halone := number?_of_writes hwrites endsNumeral_nil rounding
    rw [List.append_nil, h] at halone
    obtain ⟨n', hn', heq⟩ := Option.map_eq_some_iff.1 halone.symm
    cases heq
    exact ⟨_, _, _, _, hwrites, hn'⟩

/-- A number that is read back from its text alone is read back from it in a longer text. -/
theorem IsReadBack.number? {rounding : Rounding} {n : JsonNumber} (h : n.IsReadBack rounding)
    {rest : List Char} (hr : EndsNumeral rest) :
    number? rounding (n.text ++ rest) = some (n, rest) := by
  obtain ⟨negative, whole, fraction, exponent, hwrites, hread⟩ := h.exists_numeral
  rw [number?_of_writes hwrites hr, hread]
  rfl

/-- Integers in range are read back, whatever decimals become. -/
theorem isReadBack_integer {n : Int} (h : (integer n).IsInRange) (rounding : Rounding) :
    (integer n).IsReadBack rounding := by
  have halone := number?_of_writes (writesNumeral_integer n) endsNumeral_nil rounding
  rw [List.append_nil, numberOf?_integer h] at halone
  exact halone

/-- Where decimals become the nearest floating-point numbers, every number in range is read back. -/
theorem IsInRange.isReadBack {n : JsonNumber} (h : n.IsInRange) : n.IsReadBack .nearest := by
  rcases n.exists_numeral with ⟨hnot, -⟩ | ⟨negative, whole, fraction, exponent, hwrites, hread⟩
  · exact absurd h hnot
  · have halone := number?_of_writes hwrites endsNumeral_nil .nearest
    rw [List.append_nil, hread h] at halone
    exact halone

end JsonNumber

end FilterQuery
