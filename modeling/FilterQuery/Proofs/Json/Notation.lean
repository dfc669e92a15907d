import FilterQuery.Json.Text
import FilterQuery.Json.Token
import FilterQuery.Proofs.Basic
import Mathlib.Data.Set.List

/-!
# The notation of JSON

What texts write the tokens of JSON, whatever reads them. Numbers are left out.

* `WritesUnit`, `WritesChar`, `WritesChars` : four hexadecimal digits, a character of a string in any of
  its spellings, and the characters of a string;
* `WritesToken`, `WritesTokens` : a token, and tokens with gaps between them;
* `Spelling` : a token with one of its texts, `Spelling.mark`, `Spelling.quoted` and `Spelling.single`;
* `scan_of_writes` : the tokens that a text writes are found in it.
-/

set_option autoImplicit false

namespace FilterQuery.JsonToken

/-! ### Characters -/

/-- The hexadecimal digits with small letters. -/
def smallHexDigits : List Char :=
  ['0', '1', '2', '3', '4', '5', '6', '7', '8', '9', 'a', 'b', 'c', 'd', 'e', 'f']

/-- The hexadecimal digits with capital letters. -/
def capitalHexDigits : List Char :=
  ['0', '1', '2', '3', '4', '5', '6', '7', '8', '9', 'A', 'B', 'C', 'D', 'E', 'F']

/-- The character is a hexadecimal digit of the value `n`. -/
def IsHexDigit (c : Char) (n : Nat) : Prop :=
  smallHexDigits[n]? = some c ∨ capitalHexDigits[n]? = some c

/-- Four hexadecimal digits. -/
inductive WritesUnit : List Char → Nat → Prop
  | intro {a b c d : Char} {i j k l : Nat} : IsHexDigit a i → IsHexDigit b j → IsHexDigit c k →
      IsHexDigit d l → WritesUnit [a, b, c, d] (((i * 16 + j) * 16 + k) * 16 + l)

/-- The letters that stand for a character after a backslash, with that character. -/
def shortEscapes : List (Char × Char) :=
  [('"', '"'), ('\\', '\\'), ('/', '/'), ('b', '\x08'), ('f', '\x0c'), ('n', '\n'), ('r', '\r'),
    ('t', '\t')]

/-- The spellings of a character in a string: itself, unless it is a quote, a backslash or a control
character; a backslash and a letter; a backslash and the number of the character in UTF-16, which for some
takes two escapes. -/
inductive WritesChar : List Char → Char → Prop
  | plain {c : Char} : 0x20 ≤ c.toNat → c ≠ '"' → c ≠ '\\' → WritesChar [c] c
  | short {letter c : Char} : (letter, c) ∈ shortEscapes → WritesChar ['\\', letter] c
  | unit {digits : List Char} {c : Char} : WritesUnit digits c.toNat →
      WritesChar ('\\' :: 'u' :: digits) c
  | pair {high low : List Char} {c : Char} {n : Nat} : c.toNat = 0x10000 + n →
      WritesUnit high (0xD800 + n / 0x400) → WritesUnit low (0xDC00 + n % 0x400) →
      WritesChar ('\\' :: 'u' :: high ++ '\\' :: 'u' :: low) c

/-- The characters of a string, one by one. -/
inductive WritesChars : List Char → List Char → Prop
  | nil : WritesChars [] []
  | cons {text texts s : List Char} {c : Char} : WritesChar text c → WritesChars texts s →
      WritesChars (text ++ texts) (c :: s)

theorem hexValue?_of_isHexDigit {c : Char} {n : Nat} (h : IsHexDigit c n) :
    hexValue? c = some n := by
  have hsmall : ∀ i : Fin 16, hexValue? (smallHexDigits.get i) = some i := by decide
  have hcapital : ∀ i : Fin 16, hexValue? (capitalHexDigits.get i) = some i := by decide
  rcases h with h | h
  · obtain ⟨hn, rfl⟩ := List.getElem?_eq_some_iff.1 h
    exact hsmall ⟨n, hn⟩
  · obtain ⟨hn, rfl⟩ := List.getElem?_eq_some_iff.1 h
    exact hcapital ⟨n, hn⟩

theorem codeUnit?_of_writes {digits : List Char} {n : Nat} (h : WritesUnit digits n)
    (rest : List Char) : codeUnit? (digits ++ rest) = some (n, rest) := by
  obtain ⟨ha, hb, hc, hd⟩ := h
  simp only [List.cons_append, List.nil_append, codeUnit?, hexValue?_of_isHexDigit ha,
    hexValue?_of_isHexDigit hb, hexValue?_of_isHexDigit hc, hexValue?_of_isHexDigit hd]
  rfl

theorem codePoint?_of_unit {digits : List Char} {c : Char} (h : WritesUnit digits c.toNat)
    (rest : List Char) : codePoint? (digits ++ rest) = some (c, rest) := by
  have hvalid : c.toNat < 0xD800 ∨ 0xE000 ≤ c.toNat := by
    rcases c.valid with h | h
    · exact .inl h
    · exact .inr h.1
  unfold codePoint?
  rw [codeUnit?_of_writes h]
  simp [hvalid]

theorem codePoint?_of_pair {high low : List Char} {c : Char} {n : Nat}
    (hc : c.toNat = 0x10000 + n) (hhigh : WritesUnit high (0xD800 + n / 0x400))
    (hlow : WritesUnit low (0xDC00 + n % 0x400)) (rest : List Char) :
    codePoint? (high ++ '\\' :: 'u' :: (low ++ rest)) = some (c, rest) := by
  have hmax : c.toNat < 0x110000 := by
    rcases c.valid with h | h
    · exact Nat.lt_trans h (by decide)
    · exact h.2
  have hn : n / 0x400 < 0x400 := by omega
  have hlead : ¬ (0xD800 + n / 0x400 < 0xD800 ∨ 0xE000 ≤ 0xD800 + n / 0x400) := by omega
  have htrail : ¬ 0xDC00 ≤ 0xD800 + n / 0x400 := by omega
  have hlast : 0xDC00 ≤ 0xDC00 + n % 0x400 ∧ 0xDC00 + n % 0x400 < 0xE000 := by omega
  have hvalue : 0x10000 + (0xD800 + n / 0x400 - 0xD800) * 0x400 + (0xDC00 + n % 0x400 - 0xDC00) =
      c.toNat := by omega
  unfold codePoint?
  rw [codeUnit?_of_writes hhigh]
  simp only [Option.bind_eq_bind, Option.bind_some, if_neg hlead, if_neg htrail,
    codeUnit?_of_writes hlow, if_pos hlast, hvalue, Char.ofNat_toNat, Option.pure_def]

/-- What stands after a backslash. -/
theorem escaped?_of_short {letter c : Char} (h : (letter, c) ∈ shortEscapes) (rest : List Char) :
    escaped? (letter :: rest) = some (c, rest) := by
  simp only [shortEscapes, List.mem_cons, Prod.mk.injEq, List.not_mem_nil, or_false] at h
  rcases h with ⟨rfl, rfl⟩ | ⟨rfl, rfl⟩ | ⟨rfl, rfl⟩ | ⟨rfl, rfl⟩ | ⟨rfl, rfl⟩ | ⟨rfl, rfl⟩ |
    ⟨rfl, rfl⟩ | ⟨rfl, rfl⟩
  all_goals rfl

/-! ### Strings -/

theorem string?_plain {c : Char} (hc : 0x20 ≤ c.toNat) (hquote : c ≠ '"') (hslash : c ≠ '\\')
    (read rest : List Char) : string? read (c :: rest) = string? (c :: read) rest := by
  rw [string?]
  · rw [if_neg (Nat.not_lt.2 hc)]
  · exact hquote
  · exact hslash

theorem string?_escaped {c : Char} {text rest : List Char} (h : escaped? text = some (c, rest))
    (read : List Char) : string? read ('\\' :: text) = string? (c :: read) rest := by
  rw [string?]
  split
  · next h' =>
    rw [h] at h'
    cases h'
    rfl
  · next h' =>
    rw [h] at h'
    cases h'

theorem string?_of_writesChar {text : List Char} {c : Char} (h : WritesChar text c)
    (read rest : List Char) : string? read (text ++ rest) = string? (c :: read) rest := by
  cases h with
  | plain hc hquote hslash => exact string?_plain hc hquote hslash read rest
  | short h => exact string?_escaped (escaped?_of_short h rest) read
  | @unit digits _ h =>
    have hescaped : escaped? ('u' :: (digits ++ rest)) = some (c, rest) := codePoint?_of_unit h rest
    exact string?_escaped hescaped read
  | @pair high low _ _ hc hhigh hlow =>
    have hescaped : escaped? ('u' :: (high ++ '\\' :: 'u' :: (low ++ rest))) = some (c, rest) :=
      codePoint?_of_pair hc hhigh hlow rest
    rw [List.append_assoc]
    exact string?_escaped hescaped read

theorem string?_of_writesChars {text s : List Char} (h : WritesChars text s)
    (read rest : List Char) :
    string? read (text ++ '"' :: rest) = some (read.reverse ++ s, rest) := by
  induction h generalizing read with
  | nil =>
    rw [List.nil_append, List.append_nil]
    rw [string?]
  | cons hc _ ih =>
    rw [List.append_assoc, string?_of_writesChar hc, ih, List.reverse_cons, List.append_assoc]
    rfl

theorem isHexDigit_hexDigit (n : Nat) : IsHexDigit (hexDigit n) (n % 16) := by
  have hall : ∀ i : Fin 16, smallHexDigits[i.val]? = some (Nat.digitChar i) := by decide
  exact .inl (hall ⟨n % 16, Nat.mod_lt n (by decide)⟩)

theorem writesChar_escapeJson (c : Char) : WritesChar (escapeJson c) c := by
  unfold escapeJson
  split
  · next h =>
    rw [h]
    exact .short (by decide)
  · next hquote =>
    split
    · next h =>
      rw [h]
      exact .short (by decide)
    · next hslash =>
      split_ifs with h₁ h₂ h₃ h₄ h₅ hcontrol
      · rw [h₁]
        exact .short (by decide)
      · rw [h₂]
        exact .short (by decide)
      · rw [h₃]
        exact .short (by decide)
      · rw [h₄]
        exact .short (by decide)
      · rw [h₅]
        exact .short (by decide)
      · have hunit := WritesUnit.intro (isHexDigit_hexDigit 0) (isHexDigit_hexDigit 0)
          (isHexDigit_hexDigit (c.toNat / 16)) (isHexDigit_hexDigit c.toNat)
        have hvalue : ((0 % 16 * 16 + 0 % 16) * 16 + c.toNat / 16 % 16) * 16 + c.toNat % 16 =
            c.toNat := by omega
        rw [hvalue] at hunit
        exact .unit hunit
      · exact .plain (Nat.not_lt.1 hcontrol) hquote hslash

/-- Each string has a text. -/
theorem writesChars_escapeJson (s : List Char) : WritesChars (s.flatMap escapeJson) s := by
  induction s with
  | nil => exact .nil
  | cons c s ih =>
    rw [List.flatMap_cons]
    exact .cons (writesChar_escapeJson c) ih

/-! ### Tokens -/

/-- The brackets and marks. -/
def marks : List (Char × JsonToken) :=
  [('\x7b', openBrace), ('\x7d', closeBrace), ('[', openBracket), (']', closeBracket), (':', colon),
    (',', comma)]

/-- The words. -/
def words : List (List Char × JsonToken) :=
  [(['n', 'u', 'l', 'l'], null), (['t', 'r', 'u', 'e'], boolean true),
    (['f', 'a', 'l', 's', 'e'], boolean false)]

/-- The texts of a token that is no number. -/
inductive WritesToken : List Char → JsonToken → Prop
  | mark {c : Char} {t : JsonToken} : (c, t) ∈ marks → WritesToken [c] t
  | word {text : List Char} {t : JsonToken} : (text, t) ∈ words → WritesToken text t
  | string {text : List Char} {s : String} : WritesChars text s.toList →
      WritesToken ('"' :: text ++ ['"']) (string s)

/-- Tokens with gaps before, between and after them. -/
inductive WritesTokens : List Char → List JsonToken → Prop
  | ending {gap : List Char} : (∀ c ∈ gap, isGap c) → WritesTokens gap []
  | token {gap text texts : List Char} {t : JsonToken} {ts : List JsonToken} :
      (∀ c ∈ gap, isGap c) → WritesToken text t → WritesTokens texts ts →
      WritesTokens (gap ++ (text ++ texts)) (t :: ts)

/-- A token with one of its texts. -/
structure Spelling where
  text : List Char
  token : JsonToken
  writes : WritesToken text token

namespace Spelling

/-- A bracket or a mark. -/
def mark (c : Char) (t : JsonToken) (h : (c, t) ∈ marks) : Spelling := ⟨[c], t, .mark h⟩

/-- A string between quotes. -/
def quoted (s : String) : Spelling :=
  ⟨quoteJson s, .string s, .string (writesChars_escapeJson s.toList)⟩

/-- A string of one character between quotes, however it is spelled. -/
def single {text : List Char} {c : Char} (h : WritesChar text c) : Spelling :=
  ⟨'"' :: text ++ ['"'], .string (String.ofList [c]), .string (by
    rw [String.toList_ofList, ← List.append_nil text]
    exact .cons h .nil)⟩

/-- Tokens with a blank before each. -/
theorem writesTokens (spellings : List Spelling) :
    WritesTokens (spellings.flatMap fun s => ' ' :: s.text) (spellings.map token) := by
  induction spellings with
  | nil => exact .ending (List.forall_mem_nil _)
  | cons s spellings ih =>
    rw [List.flatMap_cons, List.map_cons]
    have hgap : ∀ c ∈ [' '], isGap c := List.forall_mem_singleton.2 (by decide)
    exact .token hgap s.writes ih

end Spelling

theorem exists_writesTokens {ts : List JsonToken} (h : ∀ t ∈ ts, t ∈ Set.range Spelling.token) :
    ∃ text, WritesTokens text ts := by
  have hts : ts ∈ Set.range (List.map Spelling.token) := by
    rw [Set.range_list_map]
    exact h
  obtain ⟨spellings, rfl⟩ := hts
  exact ⟨_, Spelling.writesTokens spellings⟩

theorem scan_gap (rounding : Rounding) {gap : List Char} (h : ∀ c ∈ gap, isGap c)
    (rest : List Char) : scan rounding (gap ++ rest) = scan rounding rest := by
  induction gap with
  | nil => rfl
  | cons c gap ih =>
    obtain ⟨hc, hgap⟩ := List.forall_mem_cons.1 h
    rw [List.cons_append, scan, if_pos hc, ih hgap]

theorem scan_literal {rounding : Rounding} {c : Char} {r rest : List Char} {t : JsonToken}
    (hgap : isGap c = false) (hmark : punctuation? c = none)
    (h : literal? rounding c r = some (t, rest)) :
    scan rounding (c :: r) = t :: scan rounding rest := by
  rw [scan, hgap, hmark, if_neg Bool.false_ne_true]
  dsimp only
  split
  · next h' =>
    rw [h] at h'
    cases h'
    rfl
  · next h' =>
    rw [h] at h'
    cases h'

theorem scan_token (rounding : Rounding) {text : List Char} {t : JsonToken} (h : WritesToken text t)
    (rest : List Char) : scan rounding (text ++ rest) = t :: scan rounding rest := by
  cases h with
  | mark h =>
    simp only [marks, List.mem_cons, Prod.mk.injEq, List.not_mem_nil, or_false] at h
    rcases h with ⟨rfl, rfl⟩ | ⟨rfl, rfl⟩ | ⟨rfl, rfl⟩ | ⟨rfl, rfl⟩ | ⟨rfl, rfl⟩ | ⟨rfl, rfl⟩
    all_goals
      rw [List.singleton_append, scan]
      rfl
  | word h =>
    simp only [words, List.mem_cons, Prod.mk.injEq, List.not_mem_nil, or_false] at h
    rcases h with ⟨rfl, rfl⟩ | ⟨rfl, rfl⟩ | ⟨rfl, rfl⟩
    all_goals exact scan_literal (by decide) (by decide) rfl
  | string h =>
    rw [List.append_assoc, List.cons_append, List.singleton_append]
    apply scan_literal (by decide) (by decide)
    rw [literal?, if_pos rfl, string?_of_writesChars h, Option.map_some, List.reverse_nil]
    dsimp only
    rw [List.nil_append, String.ofList_toList]

/-- The tokens that a text writes are those that are found in it. -/
theorem scan_of_writes (rounding : Rounding) {text : List Char} {ts : List JsonToken}
    (h : WritesTokens text ts) : scan rounding text = ts := by
  induction h with
  | @ending gap hgap =>
    rw [← List.append_nil gap, scan_gap rounding hgap, scan]
  | token hgap ht _ ih => rw [scan_gap rounding hgap, scan_token rounding ht, ih]

end FilterQuery.JsonToken
