import FilterQuery.Json.Reader
import FilterQuery.Proofs.Json.Number
import FilterQuery.Proofs.Json.Reading
import FilterQuery.Proofs.Table

/-!
# The compact text of a JSON value is read back

* `HasNoControls`, `Json.hasNoControls_text` : it has no control characters, hence no line breaks;
* `Json.numbers` : the numbers in a value;
* `Json.scan_text` : the tokens of the text are those of the value, if each number is read back;
* `Json.ofText?_text` : the text is read as the value, if its objects are in order besides, and it is not
  nested too deeply.
-/

set_option autoImplicit false

namespace FilterQuery

open JsonToken

/-! ### Control characters -/

/-- No character of the text comes before the blank, as control characters do. -/
def HasNoControls (text : List Char) : Prop := ∀ c ∈ text, 0x20 ≤ c.toNat

instance (text : List Char) : Decidable (HasNoControls text) := List.decidableBAll _ text

namespace HasNoControls

theorem nil : HasNoControls [] := List.forall_mem_nil _

theorem append {text more : List Char} (h : HasNoControls text) (hmore : HasNoControls more) :
    HasNoControls (text ++ more) :=
  List.forall_mem_append.2 ⟨h, hmore⟩

theorem cons {c : Char} {text : List Char} (hc : 0x20 ≤ c.toNat) (h : HasNoControls text) :
    HasNoControls (c :: text) :=
  List.forall_mem_cons.2 ⟨hc, h⟩

theorem intercalate {mark : List Char} {texts : List (List Char)} (hmark : HasNoControls mark)
    (h : ∀ text ∈ texts, HasNoControls text) : HasNoControls (mark.intercalate texts) := by
  intro c hc
  rcases Json.mem_intercalate hc with hc | ⟨text, htext, hc⟩
  · exact hmark c hc
  · exact h text htext c hc

theorem of_isDigit {digits : List Char} (h : ∀ c ∈ digits, c.isDigit) : HasNoControls digits := by
  intro c hc
  have hdigit := h c hc
  rw [Char.isDigit_iff_toNat] at hdigit
  exact Nat.le_trans (by decide) hdigit.1

theorem of_writesNumeral {text whole fraction : List Char} {negative : Bool} {exponent : Option Int}
    (h : WritesNumeral text negative whole fraction exponent) : HasNoControls text := by
  obtain ⟨hwhole, hf, he⟩ := h
  have hsign : HasNoControls (Binary64.signText negative) := by
    cases negative <;> simp [HasNoControls, Binary64.signText]
  refine hsign.append ((of_isDigit hwhole.isDigit).append (append ?_ ?_))
  · cases hf with
    | none => exact nil
    | point _ hdigits => exact cons (by decide) (of_isDigit hdigits)
  · cases he with
    | none => exact nil
    | @mark e =>
      have hdigits := of_isDigit fun c => isDigit_toDigits (n := e.natAbs)
      have hsign : 0x20 ≤ (if e < 0 then '-' else '+').toNat := by
        split <;> decide
      exact cons (by decide) (cons hsign hdigits)

theorem of_writesUnit {digits : List Char} {n : Nat} (h : WritesUnit digits n) :
    HasNoControls digits := by
  have hdigit {c : Char} {i : Nat} (hc : IsHexDigit c i) : 0x20 ≤ c.toNat := by
    have hsmall : ∀ i : Fin 16, 0x20 ≤ (smallHexDigits.get i).toNat := by decide
    have hcapital : ∀ i : Fin 16, 0x20 ≤ (capitalHexDigits.get i).toNat := by decide
    rcases hc with hc | hc
    · obtain ⟨hi, rfl⟩ := List.getElem?_eq_some_iff.1 hc
      exact hsmall ⟨i, hi⟩
    · obtain ⟨hi, rfl⟩ := List.getElem?_eq_some_iff.1 hc
      exact hcapital ⟨i, hi⟩
  obtain ⟨ha, hb, hc, hd⟩ := h
  exact cons (hdigit ha) (cons (hdigit hb) (cons (hdigit hc) (cons (hdigit hd) nil)))

theorem of_writesChar {text : List Char} {c : Char} (h : WritesChar text c) : HasNoControls text := by
  cases h with
  | plain hc _ _ => exact cons hc nil
  | short h =>
    simp only [shortEscapes, List.mem_cons, Prod.mk.injEq, List.not_mem_nil, or_false] at h
    rcases h with ⟨rfl, -⟩ | ⟨rfl, -⟩ | ⟨rfl, -⟩ | ⟨rfl, -⟩ | ⟨rfl, -⟩ | ⟨rfl, -⟩ | ⟨rfl, -⟩ | ⟨rfl, -⟩
    all_goals decide
  | unit h => exact cons (by decide) (cons (by decide) (of_writesUnit h))
  | pair _ hhigh hlow =>
    exact (cons (by decide) (cons (by decide) (of_writesUnit hhigh))).append
      (cons (by decide) (cons (by decide) (of_writesUnit hlow)))

theorem of_writesChars {text s : List Char} (h : WritesChars text s) : HasNoControls text := by
  induction h with
  | nil => exact nil
  | cons hc _ ih => exact (of_writesChar hc).append ih

theorem quoteJson (s : String) : HasNoControls (quoteJson s) :=
  (cons (by decide) (of_writesChars (writesChars_escapeJson s.toList))).append (by decide)

theorem number (n : JsonNumber) : HasNoControls n.text := by
  rcases n.exists_numeral with ⟨-, htext⟩ | ⟨_, _, _, _, hwrites, -⟩
  · rw [htext]
    decide
  · exact of_writesNumeral hwrites

end HasNoControls

namespace Json

mutual

/-- The text of a value has no control characters, so it is on one line. -/
theorem hasNoControls_text : ∀ v : Json, HasNoControls v.text
  | null => by
    rw [text]
    decide
  | boolean true => by
    rw [text]
    decide
  | boolean false => by
    rw [text]
    decide
  | number n => by
    rw [text]
    exact .number n
  | string s => by
    rw [text]
    exact .quoteJson s
  | array items => by
    rw [text]
    have hmark : HasNoControls [','] := by decide
    exact .append (.cons (by decide) (.intercalate hmark (hasNoControls_texts items))) (by decide)
  | object members => by
    rw [text]
    have hmark : HasNoControls [','] := by decide
    exact .append (.cons (by decide) (.intercalate hmark (hasNoControls_memberTexts members)))
      (by decide)

theorem hasNoControls_texts : ∀ vs : List Json, ∀ text ∈ texts vs, HasNoControls text
  | [] => by
    rw [texts]
    exact List.forall_mem_nil _
  | v :: vs => by
    rw [texts]
    exact List.forall_mem_cons.2 ⟨hasNoControls_text v, hasNoControls_texts vs⟩

theorem hasNoControls_memberTexts :
    ∀ members : List (String × Json), ∀ text ∈ memberTexts members, HasNoControls text
  | [] => by
    rw [memberTexts]
    exact List.forall_mem_nil _
  | (name, v) :: members => by
    rw [memberTexts]
    exact List.forall_mem_cons.2
      ⟨.append (.quoteJson name) ((hasNoControls_text v).cons (by decide)),
        hasNoControls_memberTexts members⟩

end

/-! ### Tokens -/

mutual

/-- The numbers in a value. -/
def numbers : Json → List JsonNumber
  | number n => [n]
  | array items => itemsNumbers items
  | object members => membersNumbers members
  | _ => []

/-- The numbers in the items of an array. -/
def itemsNumbers : List Json → List JsonNumber
  | [] => []
  | v :: vs => v.numbers ++ itemsNumbers vs

/-- The numbers in the members of an object. -/
def membersNumbers : List (String × Json) → List JsonNumber
  | [] => []
  | (_, v) :: rest => v.numbers ++ membersNumbers rest

end

end Json

theorem JsonToken.endsNumeral_cons {c : Char} (h : c ∈ [',', ']', '\x7d']) (rest : List Char) :
    EndsNumeral (c :: rest) := by
  rintro d ⟨⟩
  simp only [List.mem_cons, List.not_mem_nil, or_false] at h
  rcases h with rfl | rfl | rfl
  all_goals decide

theorem JsonToken.scan_mark {rounding : Rounding} (c : Char) (t : JsonToken) (h : (c, t) ∈ marks)
    (rest : List Char) : scan rounding (c :: rest) = t :: scan rounding rest :=
  scan_token rounding (.mark h) rest

theorem JsonToken.scan_signOrDigit {rounding : Rounding} {c : Char} {r rest : List Char}
    {n : JsonNumber} (hc : c = '-' ∨ c.isDigit) (h : number? rounding (c :: r) = some (n, rest)) :
    scan rounding (c :: r) = .number n :: scan rounding rest := by
  have hne (d : Char) (hminus : d ≠ '-') (hdigit : d.isDigit = false) : c ≠ d := by
    rintro rfl
    rcases hc with rfl | hc
    · exact hminus rfl
    · rw [hdigit] at hc
      cases hc
  have hgap : isGap c = false := by simp [isGap, hne]
  have hmark : punctuation? c = none := by simp [punctuation?, hne]
  have hliteral : literal? rounding c r = some (.number n, rest) := by simp [literal?, hne, h]
  exact scan_literal hgap hmark hliteral

/-- A number that is read back is found as such in a longer text. -/
theorem JsonNumber.IsReadBack.scan {rounding : Rounding} {n : JsonNumber} (h : n.IsReadBack rounding)
    {rest : List Char} (hr : EndsNumeral rest) :
    scan rounding (n.text ++ rest) = .number n :: scan rounding rest := by
  have hread := h.number? hr
  obtain ⟨_, _, _, _, hwrites, -⟩ := h.exists_numeral
  obtain ⟨c, r, htext, hc⟩ := hwrites.exists_cons
  rw [htext] at hread ⊢
  exact scan_signOrDigit hc hread

namespace Json

variable {rounding : Rounding}

theorem scan_member {v : Json} {rest : List Char} (name : String)
    (h : scan rounding (v.text ++ rest) = v.tokens ++ scan rounding rest) :
    scan rounding (quoteJson name ++ ':' :: v.text ++ rest) =
      .string name :: .colon :: v.tokens ++ scan rounding rest := by
  have hname : WritesToken (quoteJson name) (.string name) :=
    .string (writesChars_escapeJson name.toList)
  rw [List.append_assoc, List.cons_append, scan_token rounding hname,
    scan_mark ':' .colon (by decide), h]
  rfl

mutual

/-- The tokens of a value are found in its text, whatever follows that is no part of a number. -/
theorem scan_text : ∀ (v : Json), (∀ n ∈ v.numbers, n.IsReadBack rounding) → ∀ {rest : List Char},
    EndsNumeral rest → scan rounding (v.text ++ rest) = v.tokens ++ scan rounding rest
  | null, _, rest, _ => by
    rw [text, tokens]
    exact scan_token rounding (.word (by decide)) rest
  | boolean true, _, rest, _ => by
    rw [text, tokens]
    exact scan_token rounding (.word (by decide)) rest
  | boolean false, _, rest, _ => by
    rw [text, tokens]
    exact scan_token rounding (.word (by decide)) rest
  | number n, h, rest, hr => by
    rw [text, tokens]
    rw [numbers] at h
    exact (h n List.mem_cons_self).scan hr
  | string s, _, rest, _ => by
    rw [text, tokens]
    exact scan_token rounding (.string (writesChars_escapeJson s.toList)) rest
  | array items, h, rest, _ => by
    rw [numbers] at h
    have hitems := scan_items items h (endsNumeral_cons (c := ']') (by decide) rest)
    rw [text, tokens, List.append_assoc, List.cons_append, List.singleton_append, List.append_assoc,
      List.cons_append, List.singleton_append, scan_mark '[' .openBracket (by decide), hitems,
      scan_mark ']' .closeBracket (by decide)]
  | object members, h, rest, _ => by
    rw [numbers] at h
    have hmembers := scan_members members h (endsNumeral_cons (c := '\x7d') (by decide) rest)
    rw [text, tokens, List.append_assoc, List.cons_append, List.singleton_append, List.append_assoc,
      List.cons_append, List.singleton_append, scan_mark '\x7b' .openBrace (by decide), hmembers,
      scan_mark '\x7d' .closeBrace (by decide)]

theorem scan_items : ∀ (vs : List Json), (∀ n ∈ itemsNumbers vs, n.IsReadBack rounding) →
    ∀ {rest : List Char}, EndsNumeral rest → scan rounding ([','].intercalate (texts vs) ++ rest) =
      [.comma].intercalate (itemTokens vs) ++ scan rounding rest
  | [], _, _, _ => rfl
  | [v], h, rest, hr => by
    rw [itemsNumbers, itemsNumbers, List.append_nil] at h
    rw [texts, texts, itemTokens, itemTokens, List.intercalate_singleton, List.intercalate_singleton]
    exact scan_text v h hr
  | v :: w :: vs, h, rest, hr => by
    rw [itemsNumbers] at h
    obtain ⟨hv, hvs⟩ := List.forall_mem_append.1 h
    have hfirst := scan_text v hv (endsNumeral_cons (c := ',') (by decide)
      ([','].intercalate (texts (w :: vs)) ++ rest))
    have hmore := scan_items (w :: vs) hvs hr
    have htexts : [','].intercalate (texts (v :: w :: vs)) =
        v.text ++ ',' :: [','].intercalate (texts (w :: vs)) := by
      rw [texts, texts, intercalate_mark]
    rw [htexts, Reading.intercalate_itemTokens, List.append_assoc, List.append_assoc, List.cons_append,
      List.cons_append, hfirst, scan_mark ',' .comma (by decide), hmore]

theorem scan_members : ∀ (members : List (String × Json)),
    (∀ n ∈ membersNumbers members, n.IsReadBack rounding) → ∀ {rest : List Char}, EndsNumeral rest →
      scan rounding ([','].intercalate (memberTexts members) ++ rest) =
        [.comma].intercalate (memberTokens members) ++ scan rounding rest
  | [], _, _, _ => rfl
  | [(name, v)], h, rest, hr => by
    rw [membersNumbers, membersNumbers, List.append_nil] at h
    rw [memberTexts, memberTexts, memberTokens, memberTokens, List.intercalate_singleton,
      List.intercalate_singleton]
    exact scan_member name (scan_text v h hr)
  | (name, v) :: m :: members, h, rest, hr => by
    rw [membersNumbers] at h
    obtain ⟨hv, hmembers⟩ := List.forall_mem_append.1 h
    have hfirst := scan_text v hv (endsNumeral_cons (c := ',') (by decide)
      ([','].intercalate (memberTexts (m :: members)) ++ rest))
    have hmore := scan_members (m :: members) hmembers hr
    have htexts : [','].intercalate (memberTexts ((name, v) :: m :: members)) =
        quoteJson name ++ ':' :: v.text ++ ',' :: [','].intercalate (memberTexts (m :: members)) := by
      rw [memberTexts, memberTexts, intercalate_mark]
    rw [htexts, Reading.intercalate_memberTokens, List.append_assoc (quoteJson name ++ ':' :: v.text),
      List.append_assoc (.string name :: .colon :: v.tokens), List.cons_append, List.cons_append,
      scan_member name hfirst, scan_mark ',' .comma (by decide), hmore]
    rfl

end

theorem scan_text_alone {v : Json} (h : ∀ n ∈ v.numbers, n.IsReadBack rounding) :
    scan rounding v.text = v.tokens := by
  have hscan := scan_text v h endsNumeral_nil
  rw [List.append_nil] at hscan
  rw [hscan, scan, List.append_nil]

/-! ### Values -/

mutual

/-- A value whose objects are in order is that of its tree. -/
theorem toJson?_draft : ∀ v : Json, v.IsOrdered → v.draft.toJson? = some v
  | null, _ => by rw [draft, Draft.toJson?]
  | boolean b, _ => by rw [draft, Draft.toJson?]
  | number n, _ => by rw [draft, Draft.toJson?]
  | string s, _ => by rw [draft, Draft.toJson?]
  | array items, h => by
    rw [IsOrdered] at h
    rw [draft, Draft.toJson?, itemsToJson?_itemDrafts items h]
    rfl
  | object members, h => by
    rw [IsOrdered] at h
    rw [draft, Draft.toJson?, membersToJson?_memberDrafts members h.2, Option.map_some,
      foldl_insertEntry h.1]

theorem itemsToJson?_itemDrafts :
    ∀ vs : List Json, AllOrdered vs → Draft.itemsToJson? (itemDrafts vs) = some vs
  | [], _ => by rw [itemDrafts, Draft.itemsToJson?]
  | v :: vs, h => by
    rw [AllOrdered] at h
    rw [itemDrafts, Draft.itemsToJson?, toJson?_draft v h.1, itemsToJson?_itemDrafts vs h.2]
    rfl

theorem membersToJson?_memberDrafts : ∀ members : List (String × Json), MembersOrdered members →
    Draft.membersToJson? (memberDrafts members) = some members
  | [], _ => by rw [memberDrafts, Draft.membersToJson?]
  | (name, v) :: members, h => by
    rw [MembersOrdered] at h
    rw [memberDrafts, Draft.membersToJson?, toJson?_draft v h.1, membersToJson?_memberDrafts members h.2]
    rfl

end

/-- The text of a value is read as the value. -/
theorem ofText?_text {format : JsonFormat} {v : Json} (hordered : v.IsOrdered)
    (hdepth : v.depth ≤ format.maxDepth) (hnumbers : ∀ n ∈ v.numbers, n.IsReadBack format.rounding) :
    ofText? format v.text = some v := by
  rw [ofText?, Draft.ofText_of_scan (scan_text_alone hnumbers) hdepth]
  exact toJson?_draft v hordered

end Json

end FilterQuery
