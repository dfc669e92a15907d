import FilterQuery.Proofs.Json.Text

/-!
# The values that texts give

* `JsonToken.isInRange_of_mem_scan` : the numbers that are found in a text are in range;
* `Draft.Fits`, `Reading.Fits` : a tree, and what is read of a text, have such numbers only and no more
  arrays and objects one in another than there is room for, which each token keeps (`Reading.Fits.step`);
* `Json.IsReadable` : the value of such a tree, whose objects are in order besides;
* `Json.isReadable_of_ofText?` : the value of a text is one of these;
* `Json.IsReadable.ofText?_text` : it is the value of its own text.
-/

set_option autoImplicit false

namespace FilterQuery

/-! ### Tokens -/

namespace JsonToken

variable {rounding : Rounding} {n : JsonNumber}

theorem isInRange_of_number? {cs rest : List Char} (h : number? rounding cs = some (n, rest)) :
    n.IsInRange := by
  unfold number? at h
  dsimp only at h
  split at h
  · cases h
  · simp only [Option.bind_eq_bind, Option.bind_eq_some_iff] at h
    obtain ⟨_, _, _, _, n', hn, h⟩ := h
    cases h
    exact isInRange_of_numberOf? hn

theorem isInRange_of_literal? {c : Char} {r rest : List Char}
    (h : literal? rounding c r = some (.number n, rest)) : n.IsInRange := by
  unfold literal? at h
  -- no token of the other cases is a number
  split_ifs at h
  all_goals
    obtain ⟨_, hn, heq⟩ := Option.map_eq_some_iff.1 h
    cases heq
  exact isInRange_of_number? hn

theorem isInRange_of_mem_scan {cs : List Char} (h : .number n ∈ scan rounding cs) : n.IsInRange := by
  fun_induction scan rounding cs with
  | case1 => cases h
  | case2 c r hgap ih => exact ih h
  | case3 c r hgap t ht ih =>
    rcases List.mem_cons.1 h with rfl | h
    · unfold punctuation? at ht
      split_ifs at ht <;> cases ht
    · exact ih h
  | case4 c r hgap hmark t rest hliteral ih =>
    rcases List.mem_cons.1 h with rfl | h
    · exact isInRange_of_literal? hliteral
    · exact ih h
  | case5 => cases List.mem_singleton.1 h

end JsonToken

/-! ### Trees -/

/-- The tree has at most `room` arrays and objects one in another, and its numbers are in range. -/
inductive Draft.Fits : (room : Nat) → Draft → Prop
  | null {room : Nat} : Fits room .null
  | boolean {room : Nat} {b : Bool} : Fits room (.boolean b)
  | number {room : Nat} {n : JsonNumber} : n.IsInRange → Fits room (.number n)
  | string {room : Nat} {s : String} : Fits room (.string s)
  | array {room : Nat} {items : List Draft} {ending : Ending} : (∀ d ∈ items, Fits room d) →
      Fits (room + 1) (.array items ending)
  | object {room : Nat} {members : List (String × Draft)} {ending : Ending} :
      (∀ m ∈ members, Fits room m.2) → Fits (room + 1) (.object members ending)
  | missing {room : Nat} : Fits room .missing

namespace Reading

variable {limit room : Nat}

/-- What was read of the open arrays and objects fits, and leaves room for a value in the innermost. -/
inductive FramesFit (limit : Nat) : List Frame → (room : Nat) → Prop
  | nil : FramesFit limit [] limit
  | array {frames : List Frame} {room : Nat} {items : List Draft} : FramesFit limit frames (room + 1) →
      (∀ d ∈ items, d.Fits room) → FramesFit limit (.array items :: frames) room
  | object {frames : List Frame} {room : Nat} {members : List (String × Draft)} {name : String} :
      FramesFit limit frames (room + 1) → (∀ m ∈ members, m.2.Fits room) →
      FramesFit limit (.object members name :: frames) room

/-- What was read fits. -/
inductive Fits (limit : Nat) : State → Prop
  | value {frames : List Frame} {room : Nat} : FramesFit limit frames room → Fits limit ⟨frames, .value⟩
  | itemOrEnd {frames : List Frame} {room : Nat} : FramesFit limit frames (room + 1) →
      Fits limit ⟨frames, .itemOrEnd⟩
  | nameOrEnd {frames : List Frame} {room : Nat} : FramesFit limit frames (room + 1) →
      Fits limit ⟨frames, .nameOrEnd⟩
  | name {frames : List Frame} {room : Nat} {members : List (String × Draft)} :
      FramesFit limit frames (room + 1) → (∀ m ∈ members, m.2.Fits room) →
      Fits limit ⟨frames, .name members⟩
  | colon {frames : List Frame} {room : Nat} {members : List (String × Draft)} {name : String} :
      FramesFit limit frames (room + 1) → (∀ m ∈ members, m.2.Fits room) →
      Fits limit ⟨frames, .colon members name⟩
  | afterItem {frames : List Frame} {room : Nat} {items : List Draft} :
      FramesFit limit frames (room + 1) → (∀ d ∈ items, d.Fits room) →
      Fits limit ⟨frames, .afterItem items⟩
  | afterMember {frames : List Frame} {room : Nat} {members : List (String × Draft)} :
      FramesFit limit frames (room + 1) → (∀ m ∈ members, m.2.Fits room) →
      Fits limit ⟨frames, .afterMember members⟩
  | done {frames : List Frame} {root : Draft} : root.Fits limit → Fits limit ⟨frames, .done root⟩
  | overrun {frames : List Frame} {root : Draft} : root.Fits limit → Fits limit ⟨frames, .overrun root⟩
  | stopped {frames : List Frame} {root : Draft} : root.Fits limit → Fits limit ⟨frames, .stopped root⟩

theorem FramesFit.length_add {frames : List Frame} (h : FramesFit limit frames room) :
    frames.length + room = limit := by
  induction h with
  | nil => exact Nat.zero_add _
  | array _ _ ih | object _ _ ih =>
    rw [List.length_cons]
    omega

theorem fits_deliver {frames : List Frame} {d : Draft} (h : FramesFit limit frames room)
    (hd : d.Fits room) : Fits limit (deliver d frames) := by
  cases h with
  | nil => exact .done hd
  | array h hitems => exact .afterItem h (List.forall_mem_cons.2 ⟨hd, hitems⟩)
  | object h hmembers => exact .afterMember h (List.forall_mem_cons.2 ⟨hd, hmembers⟩)

theorem fits_stop {frames : List Frame} {d : Draft} (h : FramesFit limit frames room)
    (hd : d.Fits room) : Fits limit (stop d frames) := by
  induction h generalizing d with
  | nil => exact .stopped hd
  | array _ hitems ih =>
    have hall := List.forall_mem_cons.2 ⟨hd, hitems⟩
    exact ih (.array fun e he => hall e (List.mem_reverse.1 he))
  | @object _ room members name _ hmembers ih =>
    have hall : ∀ m ∈ (name, d) :: members, m.2.Fits room := List.forall_mem_cons.2 ⟨hd, hmembers⟩
    exact ih (.object fun m hm => hall m (List.mem_reverse.1 hm))

theorem fits_value {frames : List Frame} {t : JsonToken} (h : FramesFit limit frames room)
    (ht : ∀ n, t = .number n → n.IsInRange) : Fits limit (value limit frames t) := by
  have hopen (hlt : frames.length < limit) : FramesFit limit frames (room - 1 + 1) := by
    have hlength := h.length_add
    have hroom : room - 1 + 1 = room := by omega
    rw [hroom]
    exact h
  cases t with
  | null => exact fits_deliver h .null
  | boolean b => exact fits_deliver h .boolean
  | number n => exact fits_deliver h (.number (ht n rfl))
  | string s => exact fits_deliver h .string
  | openBracket =>
    rw [value]
    split
    · next hlt => exact .itemOrEnd (hopen hlt)
    · exact fits_stop h .missing
  | openBrace =>
    rw [value]
    split
    · next hlt => exact .nameOrEnd (hopen hlt)
    · exact fits_stop h .missing
  | closeBracket | closeBrace | colon | comma | malformed => exact fits_stop h .missing

/-- A token whose number is in range keeps all fitting. -/
theorem Fits.step {s : State} {t : JsonToken} (h : Fits limit s)
    (ht : ∀ n, t = .number n → n.IsInRange) : Fits limit (step limit s t) := by
  cases h with
  | value h => exact fits_value h ht
  | itemOrEnd h =>
    have hitems : FramesFit limit _ _ := .array h (List.forall_mem_nil _)
    cases t with
    | closeBracket => exact fits_deliver h (.array (List.forall_mem_nil _))
    | _ => exact fits_value hitems ht
  | nameOrEnd h =>
    cases t with
    | closeBrace => exact fits_deliver h (.object (List.forall_mem_nil _))
    | string name => exact .colon h (List.forall_mem_nil _)
    | _ => exact fits_stop h (.object (List.forall_mem_nil _))
  | name h hmembers =>
    have hreverse := fun m hm => hmembers m (List.mem_reverse.1 hm)
    cases t with
    | string name => exact .colon h hmembers
    | _ => exact fits_stop h (.object hreverse)
  | colon h hmembers =>
    cases t with
    | colon => exact .value (.object h hmembers)
    | _ => exact fits_stop (.object h hmembers) .missing
  | afterItem h hitems =>
    have hreverse := fun d hd => hitems d (List.mem_reverse.1 hd)
    cases t with
    | closeBracket => exact fits_deliver h (.array hreverse)
    | comma => exact .value (.array h hitems)
    | _ => exact fits_stop h (.array hreverse)
  | afterMember h hmembers =>
    have hreverse := fun m hm => hmembers m (List.mem_reverse.1 hm)
    cases t with
    | closeBrace => exact fits_deliver h (.object hreverse)
    | comma => exact .name h hmembers
    | _ => exact fits_stop h (.object hreverse)
  | done h => exact .overrun h
  | overrun h => exact .overrun h
  | stopped h => exact .stopped h

theorem Fits.run {s : State} {ts : List JsonToken} (h : Fits limit s)
    (hts : ∀ n, .number n ∈ ts → n.IsInRange) : Fits limit (run limit s ts) := by
  induction ts generalizing s with
  | nil => exact h
  | cons t ts ih =>
    rw [run_cons]
    refine ih (h.step fun n hn => hts n ?_) fun n hn => hts n (List.mem_cons_of_mem _ hn)
    rw [hn]
    exact List.mem_cons_self

theorem Fits.finish {s : State} (h : Fits limit s) : (finish limit s).1.Fits limit := by
  have hend : Fits limit (Reading.step limit s .malformed) := h.step (by rintro n ⟨⟩)
  unfold Reading.finish
  cases h with
  | done h | overrun h | stopped h => exact h
  | _ =>
    dsimp only
    generalize Reading.step limit _ JsonToken.malformed = s' at hend
    cases hend with
    | stopped h => exact h
    | _ => exact .missing

end Reading

theorem Draft.fits_ofText (format : JsonFormat) (text : List Char) :
    (Draft.ofText format text).1.Fits format.maxDepth := by
  have hstart : Reading.Fits format.maxDepth Reading.start := .value .nil
  exact (hstart.run fun n => JsonToken.isInRange_of_mem_scan).finish

/-! ### Values -/

namespace Json

variable {room : Nat}

/-- The objects of the value are in order, it has at most `room` arrays and objects one in another, and
its numbers are in range. -/
structure IsReadable (room : Nat) (v : Json) : Prop where
  isOrdered : v.IsOrdered
  depth_le : v.depth ≤ room
  isInRange : ∀ n ∈ v.numbers, n.IsInRange

theorem IsReadable.mono {room' : Nat} {v : Json} (h : v.IsReadable room) (hroom : room ≤ room') :
    v.IsReadable room' :=
  ⟨h.isOrdered, h.depth_le.trans hroom, h.isInRange⟩

theorem allOrdered_iff {vs : List Json} : AllOrdered vs ↔ ∀ v ∈ vs, v.IsOrdered := by
  induction vs with
  | nil => simp [AllOrdered]
  | cons v vs ih => rw [AllOrdered, ih, List.forall_mem_cons]

theorem membersOrdered_iff {members : List (String × Json)} :
    MembersOrdered members ↔ ∀ m ∈ members, m.2.IsOrdered := by
  induction members with
  | nil => simp [MembersOrdered]
  | cons m members ih => rw [MembersOrdered, ih, List.forall_mem_cons]

theorem itemsDepth_le_iff {vs : List Json} : itemsDepth vs ≤ room ↔ ∀ v ∈ vs, v.depth ≤ room := by
  induction vs with
  | nil => simp [itemsDepth]
  | cons v vs ih => rw [itemsDepth, Nat.max_le, ih, List.forall_mem_cons]

theorem membersDepth_le_iff {members : List (String × Json)} :
    membersDepth members ≤ room ↔ ∀ m ∈ members, m.2.depth ≤ room := by
  induction members with
  | nil => simp [membersDepth]
  | cons m members ih => rw [membersDepth, Nat.max_le, ih, List.forall_mem_cons]

theorem itemsNumbers_eq_flatMap (vs : List Json) : itemsNumbers vs = vs.flatMap numbers := by
  induction vs with
  | nil => rfl
  | cons v vs ih => rw [itemsNumbers, ih, List.flatMap_cons]

theorem membersNumbers_eq_flatMap (members : List (String × Json)) :
    membersNumbers members = members.flatMap fun m => m.2.numbers := by
  induction members with
  | nil => rfl
  | cons m members ih => rw [membersNumbers, ih, List.flatMap_cons]

theorem isReadable_array_iff {vs : List Json} :
    (array vs).IsReadable (room + 1) ↔ ∀ v ∈ vs, v.IsReadable room := by
  constructor
  · rintro ⟨hordered, hdepth, hrange⟩ v hv
    rw [IsOrdered, allOrdered_iff] at hordered
    rw [depth, Nat.add_le_add_iff_right, itemsDepth_le_iff] at hdepth
    rw [numbers, itemsNumbers_eq_flatMap] at hrange
    exact ⟨hordered v hv, hdepth v hv, fun n hn => hrange n (List.mem_flatMap_of_mem hv hn)⟩
  · intro h
    refine ⟨?_, ?_, ?_⟩
    · rw [IsOrdered, allOrdered_iff]
      exact fun v hv => (h v hv).isOrdered
    · rw [depth, Nat.add_le_add_iff_right, itemsDepth_le_iff]
      exact fun v hv => (h v hv).depth_le
    · rw [numbers, itemsNumbers_eq_flatMap]
      intro n hn
      obtain ⟨v, hv, hn⟩ := List.mem_flatMap.1 hn
      exact (h v hv).isInRange n hn

theorem isReadable_object {members : List (String × Json)} (hascending : Ascending members)
    (h : ∀ m ∈ members, m.2.IsReadable room) : (object members).IsReadable (room + 1) := by
  refine ⟨?_, ?_, ?_⟩
  · rw [IsOrdered, membersOrdered_iff]
    exact ⟨hascending, fun m hm => (h m hm).isOrdered⟩
  · rw [depth, Nat.add_le_add_iff_right, membersDepth_le_iff]
    exact fun m hm => (h m hm).depth_le
  · rw [numbers, membersNumbers_eq_flatMap]
    intro n hn
    obtain ⟨m, hm, hn⟩ := List.mem_flatMap.1 hn
    exact (h m hm).isInRange n hn

end Json

namespace Draft

open Json (IsReadable)

theorem exists_of_mem_itemsToJson? {ds : List Draft} {vs : List Json} {v : Json}
    (h : itemsToJson? ds = some vs) (hv : v ∈ vs) : ∃ d ∈ ds, d.toJson? = some v := by
  induction ds generalizing vs with
  | nil =>
    rw [itemsToJson?] at h
    cases h
    cases hv
  | cons d ds ih =>
    rw [itemsToJson?] at h
    simp only [Option.bind_eq_bind, Option.bind_eq_some_iff] at h
    obtain ⟨w, hd, ws, hds, h⟩ := h
    cases h
    rcases List.mem_cons.1 hv with rfl | hv
    · exact ⟨d, List.mem_cons_self, hd⟩
    · obtain ⟨e, he, hv⟩ := ih hds hv
      exact ⟨e, List.mem_cons_of_mem _ he, hv⟩

theorem exists_of_mem_membersToJson? {ds : List (String × Draft)} {entries : List (String × Json)}
    {entry : String × Json} (h : membersToJson? ds = some entries) (hentry : entry ∈ entries) :
    ∃ d ∈ ds, d.2.toJson? = some entry.2 := by
  induction ds generalizing entries with
  | nil =>
    rw [membersToJson?] at h
    cases h
    cases hentry
  | cons d ds ih =>
    rw [membersToJson?] at h
    simp only [Option.bind_eq_bind, Option.bind_eq_some_iff] at h
    obtain ⟨w, hd, ws, hds, h⟩ := h
    cases h
    rcases List.mem_cons.1 hentry with rfl | hentry
    · exact ⟨d, List.mem_cons_self, hd⟩
    · obtain ⟨e, he, hvalue⟩ := ih hds hentry
      exact ⟨e, List.mem_cons_of_mem _ he, hvalue⟩

/-- The value of a tree that fits can be read. -/
theorem Fits.isReadable {room : Nat} {d : Draft} (h : d.Fits room) {v : Json}
    (hv : d.toJson? = some v) : v.IsReadable room := by
  induction h generalizing v with
  | null | boolean | string =>
    rw [toJson?] at hv
    cases hv
    exact ⟨by simp [Json.IsOrdered], Nat.zero_le _, List.forall_mem_nil _⟩
  | number hn =>
    rw [toJson?] at hv
    cases hv
    exact ⟨by simp [Json.IsOrdered], Nat.zero_le _, List.forall_mem_singleton.2 hn⟩
  | @array _ items ending _ ih =>
    cases ending with
    | cut =>
      simp [toJson?] at hv
    | closed =>
      rw [toJson?] at hv
      obtain ⟨vs, hvs, rfl⟩ := Option.map_eq_some_iff.1 hv
      refine Json.isReadable_array_iff.2 fun w hw => ?_
      obtain ⟨d, hd, hdw⟩ := exists_of_mem_itemsToJson? hvs hw
      exact ih d hd hdw
  | @object _ members ending _ ih =>
    cases ending with
    | cut =>
      simp [toJson?] at hv
    | closed =>
      rw [toJson?] at hv
      obtain ⟨entries, hentries, rfl⟩ := Option.map_eq_some_iff.1 hv
      refine Json.isReadable_object (ascending_foldl_insertEntry .nil) fun entry hentry => ?_
      obtain ⟨m, hm, hmv⟩ := exists_of_mem_membersToJson? hentries (mem_foldl_insertEntry hentry)
      exact ih m hm hmv
  | missing =>
    simp [toJson?] at hv

end Draft

namespace Json

/-- The value of a text can be read. -/
theorem isReadable_of_ofText? {format : JsonFormat} {text : List Char} {v : Json}
    (h : ofText? format text = some v) : v.IsReadable format.maxDepth := by
  have hfits := Draft.fits_ofText format text
  unfold ofText? at h
  split at h
  · next d hd =>
    rw [hd] at hfits
    exact hfits.isReadable h
  · cases h

/-- A value that can be read is what its text is read as, if decimals become the nearest numbers. -/
theorem IsReadable.ofText?_text {room : Nat} {v : Json} (h : v.IsReadable room) :
    ofText? ⟨room, .nearest⟩ v.text = some v :=
  Json.ofText?_text h.isOrdered h.depth_le fun n hn => (h.isInRange n hn).isReadBack

end Json

end FilterQuery
