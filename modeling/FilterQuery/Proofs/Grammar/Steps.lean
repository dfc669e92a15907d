import FilterQuery.Proofs.Grammar.Tokens

/-!
# What a token does

What comes of a token depends on what must come, on the token and on the groups that are open.

* `Steps` : what can come of a token, with one constructor for each way to go on and to fail;
* `steps_item`, …, `steps_afterItem` : what comes of a token where the one thing or the other must come;
* `step_eq_iff` : reading a token gives a result exactly if that can come of it.
-/

set_option autoImplicit false

namespace FilterQuery.Query.Reading

theorem hasSegments_iff {selector : String} :
    hasSegments selector ↔ ∀ segment ∈ selector.toList.splitOn '.', segment ≠ [] := by
  simp [hasSegments]

/-- What comes of the token `t`, by what must come, in the group `level` within the groups `outer`. -/
inductive Steps (level : Level) (outer : List Level) (t : Token) :
    Mode → Except SyntaxError State → Prop
  | opening : t.kind = .openGroup → outer.length < maxGroups →
      Steps level outer t .item (.ok ⟨.empty, level :: outer, .item⟩)
  | tooDeep : t.kind = .openGroup → maxGroups ≤ outer.length →
      Steps level outer t .item (.error (unexpected .fewerGroups t))
  | selector : t.kind = .selector → hasSegments t.text →
      Steps level outer t .item (.ok ⟨level, outer, .operator t⟩)
  | noPath : t.kind = .selector → hasSegments t.text = false →
      Steps level outer t .item (.error ⟨.path, .text t.text, t.span⟩)
  | noItem : t.kind ≠ .openGroup → t.kind ≠ .selector →
      Steps level outer t .item (.error (unexpected .item t))
  | operator {selector : Token} {op : Operator} : t.kind = .operator → op.IsSpelling t.text →
      Steps level outer t (.operator selector)
        (.ok ⟨level, outer, .arguments ⟨selector, op, t.span⟩⟩)
  | unknownOperator {selector : Token} : t.kind = .operator →
      Operator.ofSpelling? t.text = none → Steps level outer t (.operator selector)
        (.error ⟨.knownOperator, .text t.text, t.span⟩)
  | noOperator {selector : Token} : t.kind ≠ .operator →
      Steps level outer t (.operator selector) (.error (unexpected .operator t))
  | bare {h : Head} : t.kind = .value → h.operator.arity ≠ .pair →
      Steps level outer t (.arguments h)
        (.ok ⟨level.add (.atom (h.comparison [t])), outer, .afterItem⟩)
  | list {h : Head} : t.kind = .openGroup →
      Steps level outer t (.arguments h) (.ok ⟨level, outer, .value h t.span.offset []⟩)
  | noPair {h : Head} : t.kind ≠ .openGroup → h.operator.arity = .pair →
      Steps level outer t (.arguments h) (.error (unexpected .pair t))
  | noArguments {h : Head} : t.kind ≠ .openGroup → t.kind ≠ .value → h.operator.arity ≠ .pair →
      Steps level outer t (.arguments h) (.error (unexpected .value t))
  | value {h : Head} {first : Nat} {values : List Token} : t.kind = .value →
      Steps level outer t (.value h first values)
        (.ok ⟨level, outer, .afterValue h first (t :: values)⟩)
  | noValue {h : Head} {first : Nat} {values : List Token} : t.kind ≠ .value →
      Steps level outer t (.value h first values) (.error (unexpected .value t))
  | separator {h : Head} {first : Nat} {values : List Token} : t.kind = .separator →
      Steps level outer t (.afterValue h first values) (.ok ⟨level, outer, .value h first values⟩)
  | ending {h : Head} {first : Nat} {values : List Token} : t.kind = .closeGroup →
      h.operator.arity ≠ .single → (h.operator.arity = .pair → values.length = 2) →
      Steps level outer t (.afterValue h first values)
        (.ok ⟨level.add (.atom (h.comparison values.reverse)), outer, .afterItem⟩)
  | notSingle {h : Head} {first : Nat} {values : List Token} : t.kind = .closeGroup →
      h.operator.arity = .single → Steps level outer t (.afterValue h first values)
        (.error ⟨.single h.operator, .list, .upTo first t.span.stop⟩)
  | notTwo {h : Head} {first : Nat} {values : List Token} : t.kind = .closeGroup →
      h.operator.arity = .pair → values.length ≠ 2 → Steps level outer t (.afterValue h first values)
        (.error ⟨.twoValues h.operator, .values values.length, .upTo first t.span.stop⟩)
  | noSeparator {h : Head} {first : Nat} {values : List Token} : t.kind ≠ .separator →
      t.kind ≠ .closeGroup → Steps level outer t (.afterValue h first values)
        (.error (unexpected .separatorOrEnd t))
  | and : t.kind = .and → Steps level outer t .afterItem (.ok ⟨level, outer, .item⟩)
  | or : t.kind = .or → Steps level outer t .afterItem (.ok ⟨level.next, outer, .item⟩)
  | closing {around : Level} {rest : List Level} : t.kind = .closeGroup → outer = around :: rest →
      Steps level outer t .afterItem (.ok ⟨around.add level.close, rest, .afterItem⟩)
  | noConnective : t.kind ≠ .and → t.kind ≠ .or → outer = [] →
      Steps level outer t .afterItem (.error (unexpected .connective t))
  | noClosing : t.kind ≠ .and → t.kind ≠ .or → t.kind ≠ .closeGroup → outer ≠ [] →
      Steps level outer t .afterItem (.error (unexpected .closeGroup t))

variable {level : Level} {outer : List Level} {t : Token}

/-! ### What comes of a token can -/

theorem steps_item : Steps level outer t .item (item ⟨level, outer, .item⟩ t) := by
  unfold item
  split
  · next hk =>
    split
    · next hroom => exact .opening hk hroom
    · next hroom => exact .tooDeep hk (Nat.not_lt.1 hroom)
  · next hk =>
    split
    · next hs => exact .selector hk hs
    · next hs => exact .noPath hk (Bool.eq_false_iff.2 hs)
  · next hopening hselector => exact .noItem hopening hselector

theorem steps_operator {selector : Token} : Steps level outer t (.operator selector)
    (Reading.operator ⟨level, outer, .operator selector⟩ selector t) := by
  unfold Reading.operator
  split
  · next hk =>
    split
    · next op hs => exact .operator hk (Operator.ofSpelling?_eq_some_iff.1 hs)
    · next hs => exact .unknownOperator hk hs
  · next hk => exact .noOperator hk

theorem steps_arguments {h : Head} :
    Steps level outer t (.arguments h) (arguments ⟨level, outer, .arguments h⟩ h t) := by
  unfold arguments
  by_cases hp : h.operator.arity = .pair
  · simp only [hp, if_true]
    split
    · next hk => exact .list hk
    · next hk => exact .noPair (by simp [hk]) hp
    · next hopening _ => exact .noPair hopening hp
  · simp only [hp, if_false]
    split
    · next hk => exact .list hk
    · next hk => exact .bare hk hp
    · next hopening hvalue => exact .noArguments hopening hvalue hp

variable {h : Head} {first : Nat} {values : List Token}

theorem steps_value : Steps level outer t (.value h first values)
    (value ⟨level, outer, .value h first values⟩ h first values t) := by
  unfold value
  split
  · next hk => exact .value hk
  · next hk => exact .noValue hk

theorem steps_list {mode : Mode} (hk : t.kind = .closeGroup) :
    Steps level outer t (.afterValue h first values)
      (Reading.list ⟨level, outer, mode⟩ h first t.span.stop values.reverse) := by
  unfold Reading.list
  rw [List.length_reverse]
  split
  · next ha => exact .notSingle hk ha
  · next ha =>
    split
    · next hl => exact .ending hk (by simp [ha]) fun _ => hl
    · next hl => exact .notTwo hk ha hl
  · next ha => exact .ending hk (by simp [ha]) (by simp [ha])

theorem steps_afterValue : Steps level outer t (.afterValue h first values)
    (afterValue ⟨level, outer, .afterValue h first values⟩ h first values t) := by
  unfold afterValue
  split
  · next hk => exact .separator hk
  · next hk => exact steps_list hk
  · next hseparator hclosing => exact .noSeparator hseparator hclosing

theorem steps_afterItem : Steps level outer t .afterItem (afterItem ⟨level, outer, .afterItem⟩ t) := by
  unfold afterItem
  split
  · next hk => exact .and hk
  · next hk => exact .or hk
  · next hk houter => exact .closing hk houter
  · next houter hand hor => exact .noConnective hand hor houter
  · next hand hor hne hclosing =>
    refine .noClosing hand hor (fun hk => ?_) hne
    obtain ⟨around, rest, rfl⟩ := List.exists_cons_of_ne_nil hne
    exact hclosing around rest hk rfl

theorem steps_step (s : State) (t : Token) : Steps s.level s.outer t s.mode (step s t) := by
  obtain ⟨level, outer, mode⟩ := s
  cases mode with
  | item => exact steps_item
  | operator selector => exact steps_operator
  | arguments h => exact steps_arguments
  | value h first values => exact steps_value
  | afterValue h first values => exact steps_afterValue
  | afterItem => exact steps_afterItem

/-! ### What can come of a token does -/

theorem Steps.step_eq {mode : Mode} {result : Except SyntaxError State}
    (h : Steps level outer t mode result) : step ⟨level, outer, mode⟩ t = result := by
  cases h with
  | opening hk hroom => simp [step, item, hk, hroom]
  | tooDeep hk hroom => simp [step, item, hk, Nat.not_lt.2 hroom, unexpected]
  | selector hk hs => simp [step, item, hk, hs]
  | noPath hk hs => simp [step, item, hk, hs]
  | noItem _ _ => simp [step, item]
  | operator hk hs =>
    simp [step, Reading.operator, hk, Operator.ofSpelling?_eq_some_iff.2 hs]
  | unknownOperator hk hs => simp [step, Reading.operator, hk, hs]
  | noOperator hk => simp [step, Reading.operator, hk]
  | bare hk hp => simp [step, arguments, hk, hp, State.complete]
  | list hk => simp [step, arguments, hk]
  | noPair hopening hp =>
    simp only [step, arguments, hp, if_true]
    split
    · next hk => exact absurd hk hopening
    · rfl
    · rfl
  | noArguments _ _ hp => simp [step, arguments, hp]
  | value hk => simp [step, Reading.value, hk]
  | noValue hk => simp [step, Reading.value, hk]
  | separator hk => simp [step, afterValue, hk]
  | @ending h first values hk hsingle hpair =>
    -- only for a pair are the values counted
    simp only [step, afterValue, hk, Reading.list, List.length_reverse]
    cases ha : h.operator.arity with
    | single => exact absurd ha hsingle
    | list => rfl
    | pair =>
      rw [if_pos (hpair ha)]
      rfl
  | notSingle hk ha => simp [step, afterValue, hk, Reading.list, ha]
  | notTwo hk ha hl => simp [step, afterValue, hk, Reading.list, ha, hl]
  | noSeparator _ _ => simp [step, afterValue]
  | and hk => simp [step, afterItem, hk]
  | or hk => simp [step, afterItem, hk]
  | closing hk houter => simp [step, afterItem, hk, houter]
  | noConnective _ _ houter => simp [step, afterItem, houter]
  | noClosing _ _ hclosing _ => simp [step, afterItem, hclosing]

/-- Reading a token gives a result exactly if that can come of it. -/
theorem step_eq_iff {s : State} {result : Except SyntaxError State} :
    step s t = result ↔ Steps s.level s.outer t s.mode result := by
  constructor
  · rintro rfl
    exact steps_step s t
  · exact Steps.step_eq

end FilterQuery.Query.Reading
