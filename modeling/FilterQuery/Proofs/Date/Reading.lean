import FilterQuery.Date.Text
import FilterQuery.Proofs.Digits

/-!
# The texts that are read as dates

* `WritesPart`, `WritesYear`, `WritesDate` : the texts of a month or a day, of a year and of a date;
* `Date.ofText?_eq_ok_iff` : these are the texts that are read as dates, and as which.
-/

set_option autoImplicit false

namespace FilterQuery

/-- Blanks, and one or two digits that write `n`. -/
inductive WritesPart : List Char → (n : Nat) → Prop
  | intro {blanks digits : List Char} {n : Nat} : (∀ c ∈ blanks, Unicode.isBlank c) →
      WritesNat digits n → digits.length ≤ 2 → WritesPart (blanks ++ digits) n

/-- Blanks, an optional sign and digits, four at most unless there is a sign. -/
inductive WritesYear : List Char → (year : Int) → Prop
  | intro {blanks sign digits : List Char} {negative : Bool} {n : Nat} :
      (∀ c ∈ blanks, Unicode.isBlank c) → WritesSign sign negative → WritesNat digits n →
      (sign = [] → digits.length ≤ 4) →
      WritesYear (blanks ++ (sign ++ digits)) (Binary64.signed negative n)

/-- Year, month and day of a date, joined by hyphens. -/
inductive WritesDate : List Char → Date → Prop
  | intro {year month day : List Char} {d : Date} : WritesYear year d.year →
      WritesPart month d.month → WritesPart day d.day →
      WritesDate (year ++ '-' :: (month ++ '-' :: day)) d

theorem WritesYear.ne_nil {cs : List Char} {year : Int} (h : WritesYear cs year) : cs ≠ [] := by
  obtain ⟨-, -, hwrites, -⟩ := h
  simp [hwrites.ne_nil]

namespace Date

variable {cs rest : List Char}

/-! ### Numbers -/

/-- What is read as a number is digits in front. -/
theorem writesNat_of_number {width : Option Nat} {n : Nat} (hw : ∀ k ∈ width, 0 < k)
    (h : number width cs = .ok (n, rest)) :
    ∃ digits, cs = digits ++ rest ∧ WritesNat digits n ∧ ∀ k ∈ width, digits.length ≤ k := by
  unfold number at h
  split at h
  · cases h
  · next c cs =>
    split at h
    · cases h
    · next hc =>
      have hrun : (c :: cs).takeWhile Char.isDigit ≠ [] := by
        rw [List.takeWhile_cons_of_pos (by simpa using hc)]
        exact List.cons_ne_nil _ _
      have hdigits {digits : List Char} (hfront : digits <+: (c :: cs).takeWhile Char.isDigit)
          (hne : digits ≠ []) (hlen : ∀ k ∈ width, digits.length ≤ k)
          (h : (if (digitsValue digits : Int) ≤ Int64.maxValue.toInt then
              .ok (digitsValue digits, (c :: cs).drop digits.length)
            else .error .outOfRange : Except DateFault (Nat × List Char)) = .ok (n, rest)) :
          ∃ digits, c :: cs = digits ++ rest ∧ WritesNat digits n ∧
            ∀ k ∈ width, digits.length ≤ k := by
        split at h
        · cases h
          have hall : ∀ d ∈ digits, d.isDigit := fun d hd =>
            List.mem_takeWhile_imp (hfront.subset hd)
          have happend := List.prefix_iff_eq_append.1 (hfront.trans (List.takeWhile_prefix _))
          exact ⟨digits, happend.symm, ⟨hne, hall, rfl⟩, hlen⟩
        · cases h
      cases width with
      | none => exact hdigits (List.prefix_refl _) hrun (fun _ hk => absurd hk (by simp)) h
      | some k =>
        refine hdigits (List.take_prefix k _) (by simp [hrun, (hw k rfl).ne']) ?_ h
        rintro _ ⟨⟩
        exact List.length_take_le _ _

/-- Digits up to something else are read as the number they write. -/
theorem number_of_writesNat {width : Option Nat} {digits : List Char} {n : Nat}
    (h : WritesNat digits n) (hr : ∀ c ∈ rest.head?, c.isDigit = false)
    (hw : ∀ k ∈ width, digits.length ≤ k) (hmax : (n : Int) ≤ Int64.maxValue.toInt) :
    number width (digits ++ rest) = .ok (n, rest) := by
  obtain ⟨hne, hd, rfl⟩ := h
  have hrun := takeWhile_append_of_stop hd hr
  obtain ⟨c, digits, rfl⟩ := List.exists_cons_of_ne_nil hne
  have hc := hd c List.mem_cons_self
  have hdrop : (c :: (digits ++ rest)).drop (c :: digits).length = rest := List.drop_left
  rw [List.cons_append] at hrun ⊢
  rw [number, hc, hrun]
  cases width with
  | none =>
    dsimp only
    rw [if_neg (by decide), if_pos hmax, hdrop]
  | some n =>
    dsimp only
    rw [List.take_of_length_le (hw n rfl), if_neg (by decide), if_pos hmax, hdrop]

theorem isBlank_of_isDigit {c : Char} (h : c.isDigit) : Unicode.isBlank c = false := by
  have hlow : 48 ≤ c.toNat ∧ c.toNat ≤ 57 := by
    simpa [Char.isDigit, UInt32.le_iff_toNat_le] using h
  simp only [Unicode.isBlank, Bool.or_eq_false_iff, Bool.and_eq_false_iff, decide_eq_false_iff_not]
  omega

theorem dropWhile_blanks {blanks : List Char} {c : Char} (hblanks : ∀ c ∈ blanks, Unicode.isBlank c)
    (hc : Unicode.isBlank c = false) (rest : List Char) :
    (blanks ++ c :: rest).dropWhile Unicode.isBlank = c :: rest := by
  apply dropWhile_append_of_stop hblanks
  rintro _ ⟨⟩
  exact hc

theorem exists_blanks (cs : List Char) : ∃ blanks, (∀ c ∈ blanks, Unicode.isBlank c) ∧
    cs = blanks ++ cs.dropWhile Unicode.isBlank :=
  ⟨cs.takeWhile Unicode.isBlank, fun _ => List.mem_takeWhile_imp,
    List.takeWhile_append_dropWhile.symm⟩

/-! ### Months and days -/

/-- A month or a day is read from blanks and one or two digits. -/
theorem rangedPart_eq_ok_iff {most n : Nat} (hmost : most < 100)
    (hr : ∀ c ∈ rest.head?, c.isDigit = false) : rangedPart most cs = .ok (n, rest) ↔
      ∃ text, cs = text ++ rest ∧ WritesPart text n ∧ 1 ≤ n ∧ n ≤ most := by
  constructor
  · intro h
    obtain ⟨⟨n', rest'⟩, hnumber, hrange⟩ := bind_eq_ok.1 h
    dsimp only at hrange
    split at hrange
    · next hn =>
      cases hrange
      obtain ⟨blanks, hblanks, hcs⟩ := exists_blanks cs
      obtain ⟨digits, hdigits, hwrites, hlen⟩ := writesNat_of_number (by simp) hnumber
      rw [hdigits, ← List.append_assoc] at hcs
      exact ⟨_, hcs, .intro hblanks hwrites (hlen 2 rfl), hn⟩
    · cases hrange
  · rintro ⟨_, rfl, ⟨hblanks, hwrites, hlen⟩, hn⟩
    obtain ⟨c, digits, rfl, hc⟩ := hwrites.exists_cons
    have hmax : (n : Int) ≤ Int64.maxValue.toInt := by
      have : Int64.maxValue.toInt = 9223372036854775807 := by decide
      omega
    have hwidth : ∀ k ∈ some 2, (c :: digits).length ≤ k := by
      rintro _ ⟨⟩
      exact hlen
    have hnumber := number_of_writesNat hwrites hr hwidth hmax
    rw [List.append_assoc, rangedPart, part, List.cons_append,
      dropWhile_blanks hblanks (isBlank_of_isDigit hc), ← List.cons_append, hnumber]
    exact if_pos hn

/-! ### Years -/

/-- A year within its range. -/
def yearWithin (year : Int) (rest : List Char) : Except DateFault (Int × List Char) :=
  if Int32.minValue.toInt ≤ year ∧ year ≤ Int32.maxValue.toInt then .ok (year, rest)
  else .error .outOfRange

theorem yearWithin_eq_ok_iff {year year' : Int} {rest' : List Char} :
    yearWithin year rest = .ok (year', rest') ↔
      (Int32.minValue.toInt ≤ year ∧ year ≤ Int32.maxValue.toInt) ∧ year = year' ∧ rest = rest' := by
  unfold yearWithin
  split
  · next h => simp only [h, Except.ok.injEq, Prod.mk.injEq, and_self, true_and]
  · next h => simp only [h, reduceCtorEq, false_and]

/-- A year is a number behind blanks and a sign, of at most four digits if there is no sign. -/
theorem yearPart_eq {sign r : List Char} {negative : Bool}
    (hdrop : cs.dropWhile Unicode.isBlank = sign ++ r) (hsign : WritesSign sign negative)
    (hr : sign = [] → ∀ c ∈ r.head?, c ≠ '-' ∧ c ≠ '+') : yearPart cs =
      (number (if sign = [] then some 4 else none) r).bind fun found =>
        yearWithin (Binary64.signed negative found.1) found.2 := by
  unfold yearPart
  rw [hdrop]
  cases hsign with
  | none =>
    have hstart := hr rfl
    rw [if_pos rfl]
    dsimp only [List.nil_append]
    split
    · exact absurd rfl (hstart _ rfl).1
    · exact absurd rfl (hstart _ rfl).2
    · cases number (some 4) r <;> rfl
  | plus =>
    rw [if_neg (List.cons_ne_nil _ _)]
    show (number none r >>= _) = _
    cases number none r <;> rfl
  | minus =>
    rw [if_neg (List.cons_ne_nil _ _)]
    show (number none r >>= _) = _
    cases number none r <;> rfl

/-- A year is read from blanks, an optional sign and digits. -/
theorem yearPart_eq_ok_iff {year : Int} (hr : ∀ c ∈ rest.head?, c.isDigit = false) :
    yearPart cs = .ok (year, rest) ↔ ∃ text, cs = text ++ rest ∧ WritesYear text year ∧
      Int32.minValue.toInt ≤ year ∧ year ≤ Int32.maxValue.toInt := by
  constructor
  · intro h
    obtain ⟨blanks, hblanks, hcs⟩ := exists_blanks cs
    obtain ⟨sign, r, negative, hdrop, hsign, -, hstart⟩ :=
      exists_writesSign (cs.dropWhile Unicode.isBlank)
    rw [yearPart_eq hdrop hsign hstart] at h
    obtain ⟨⟨n, rest'⟩, hnumber, hyear⟩ := bind_eq_ok.1 h
    obtain ⟨hrange, rfl, rfl⟩ := yearWithin_eq_ok_iff.1 hyear
    obtain ⟨digits, rfl, hwrites, hlen⟩ := writesNat_of_number (by split <;> simp) hnumber
    rw [hdrop, ← List.append_assoc sign, ← List.append_assoc] at hcs
    refine ⟨_, hcs, .intro hblanks hsign hwrites fun h => hlen 4 ?_, hrange⟩
    rw [if_pos h]
    rfl
  · rintro ⟨_, rfl, @⟨blanks, sign, digits, negative, n, hblanks, hsign, hwrites, hlen⟩, hrange⟩
    obtain ⟨c, front, hfront, hc⟩ := hwrites.exists_cons
    have hdrop : (blanks ++ (sign ++ digits) ++ rest).dropWhile Unicode.isBlank =
        sign ++ (digits ++ rest) := by
      rw [hfront, List.append_assoc, List.append_assoc]
      cases hsign with
      | none => exact dropWhile_blanks hblanks (isBlank_of_isDigit hc) _
      | plus => exact dropWhile_blanks hblanks (by decide) _
      | minus => exact dropWhile_blanks hblanks (by decide) _
    have hstart : sign = [] → ∀ d ∈ (digits ++ rest).head?, d ≠ '-' ∧ d ≠ '+' := by
      rw [hfront]
      rintro - _ ⟨⟩
      exact not_sign_of_isDigit hc
    -- the narrower range of a year implies that of the number
    have hmax : (n : Int) ≤ Int64.maxValue.toInt := by
      have : Int64.maxValue.toInt = 9223372036854775807 := by decide
      have : Int32.minValue.toInt = -2147483648 ∧ Int32.maxValue.toInt = 2147483647 := by decide
      cases negative <;> simp only [Binary64.signed] at hrange <;> omega
    have hwidth : ∀ k ∈ (if sign = [] then some 4 else none), digits.length ≤ k := by
      split
      · next hnone =>
        rintro _ ⟨⟩
        exact hlen hnone
      · nofun
    rw [yearPart_eq hdrop hsign hstart, number_of_writesNat hwrites hr hwidth hmax]
    exact yearWithin_eq_ok_iff.2 ⟨hrange, rfl, rfl⟩

/-! ### Dates -/

theorem daysIn_le (year : Int) (month : Nat) : daysIn year month ≤ 31 := by
  unfold daysIn
  split_ifs <;> omega

theorem hyphen_stops (rest : List Char) : ∀ c ∈ ('-' :: rest).head?, c.isDigit = false := by
  rintro _ ⟨⟩
  decide

theorem hyphen_eq_ok_iff : hyphen cs = .ok rest ↔ cs = '-' :: rest := by
  unfold hyphen
  split
  · simp
  · simp
  · next hne _ => exact iff_of_false (by simp) (hne rest)

theorem ofParts?_eq_some_iff {year : Int} {month day : Nat} {d : Date} :
    ofParts? year month day = some d ↔ d.year = year ∧ d.month = month ∧ d.day = day := by
  unfold ofParts?
  split
  · next h =>
    rw [Option.some.injEq]
    constructor
    · rintro rfl
      exact ⟨rfl, rfl, rfl⟩
    · rintro ⟨rfl, rfl, rfl⟩
      rfl
  · next h =>
    simp only [reduceCtorEq, false_iff]
    rintro ⟨rfl, rfl, rfl⟩
    exact h d.isDate

/-- Dates are read from the texts of their year, month and day, joined by hyphens. -/
theorem ofText?_eq_ok_iff {d : Date} : ofText? cs = .ok d ↔ WritesDate cs d := by
  have hnil : ∀ c ∈ ([] : List Char).head?, c.isDigit = false := nofun
  constructor
  · intro h
    obtain ⟨⟨year, cs₁⟩, hyear, h⟩ := bind_eq_ok.1 h
    obtain ⟨cs₂, hhyphen, h⟩ := bind_eq_ok.1 h
    obtain ⟨⟨month, cs₃⟩, hmonth, h⟩ := bind_eq_ok.1 h
    obtain ⟨cs₄, hhyphen', h⟩ := bind_eq_ok.1 h
    obtain ⟨⟨day, cs₅⟩, hday, hparts⟩ := bind_eq_ok.1 h
    dsimp only at hhyphen hhyphen' hmonth hday hparts
    rw [hyphen_eq_ok_iff] at hhyphen hhyphen'
    split at hparts
    · cases hparts
    · next hend =>
      obtain rfl := not_not.1 hend
      split at hparts
      · next hsome =>
        cases hparts
        obtain ⟨rfl, rfl, rfl⟩ := ofParts?_eq_some_iff.1 hsome
        rw [hhyphen] at hyear
        rw [hhyphen'] at hmonth
        obtain ⟨yearText, rfl, hyearText, -⟩ := (yearPart_eq_ok_iff (hyphen_stops _)).1 hyear
        obtain ⟨monthText, rfl, hmonthText, -⟩ :=
          (rangedPart_eq_ok_iff (by decide) (hyphen_stops _)).1 hmonth
        obtain ⟨dayText, rfl, hdayText, -⟩ := (rangedPart_eq_ok_iff (by decide) hnil).1 hday
        rw [List.append_nil]
        exact .intro hyearText hmonthText hdayText
      · cases hparts
  · rintro ⟨hyear, hmonth, hday⟩
    obtain ⟨hmin, hmax, hmonthMin, hmonthMax, hdayMin, hdayMax⟩ := d.isDate
    have hrange : Int32.minValue.toInt ≤ d.year ∧ d.year ≤ Int32.maxValue.toInt := by
      have : Int32.minValue.toInt = -2147483648 ∧ Int32.maxValue.toInt = 2147483647 := by decide
      omega
    have hdays := daysIn_le d.year d.month
    -- no digit follows a number, so each is read as far as it goes
    apply bind_eq_ok.2 ⟨_, (yearPart_eq_ok_iff (hyphen_stops _)).2 ⟨_, rfl, hyear, hrange⟩, _⟩
    apply bind_eq_ok.2 ⟨_, rfl, _⟩
    apply bind_eq_ok.2 ⟨_, (rangedPart_eq_ok_iff (by decide) (hyphen_stops _)).2
      ⟨_, rfl, hmonth, hmonthMin, hmonthMax⟩, _⟩
    apply bind_eq_ok.2 ⟨_, rfl, _⟩
    apply bind_eq_ok.2 ⟨_, (rangedPart_eq_ok_iff (by decide) hnil).2
      ⟨_, (List.append_nil _).symm, hday, hdayMin, hdayMax.trans hdays⟩, _⟩
    dsimp only
    rw [if_neg (by simp), ofParts?_eq_some_iff.2 ⟨rfl, rfl, rfl⟩]

/-- Behind the first character, which may be a sign, a date has a hyphen. -/
theorem hyphen_mem_of_ofText? {d : Date} (h : ofText? cs = .ok d) : '-' ∈ cs.tail := by
  obtain ⟨hyear, -, -⟩ := ofText?_eq_ok_iff.1 h
  have hne : _ ≠ [] := hyear.ne_nil
  rw [List.tail_append_of_ne_nil hne]
  exact List.mem_append_right _ List.mem_cons_self

end Date
end FilterQuery
