import FilterQuery.Json.Draft
import FilterQuery.Proofs.Json.Notation

/-!
# Reading the text of a JSON value

* `Json.tokens` : the tokens of a value, and `Json.depth`, how deep its arrays and objects are nested;
* `Json.IsSpelledBy` : a text writes these tokens;
* `Json.draft` : the value as a tree that is whole;
* `run_value`, `run_items`, `run_members` : reading the tokens delivers the tree;
* `Draft.ofText_of_scan`, `Json.IsSpelledBy.ofText` : so does reading the text, unless the value is nested
  too deeply.
-/

set_option autoImplicit false

namespace FilterQuery

namespace Json

mutual

/-- The tokens of a value. -/
def tokens : Json → List JsonToken
  | null => [.null]
  | boolean b => [.boolean b]
  | number n => [.number n]
  | string s => [.string s]
  | array items => .openBracket :: [.comma].intercalate (itemTokens items) ++ [.closeBracket]
  | object members => .openBrace :: [.comma].intercalate (memberTokens members) ++ [.closeBrace]

/-- The tokens of each item of an array. -/
def itemTokens : List Json → List (List JsonToken)
  | [] => []
  | v :: vs => v.tokens :: itemTokens vs

/-- The tokens of each member of an object. -/
def memberTokens : List (String × Json) → List (List JsonToken)
  | [] => []
  | (name, v) :: rest => (.string name :: .colon :: v.tokens) :: memberTokens rest

end

mutual

/-- The most arrays and objects one in another. -/
def depth : Json → Nat
  | array items => itemsDepth items + 1
  | object members => membersDepth members + 1
  | _ => 0

/-- The most of them in an item of an array. -/
def itemsDepth : List Json → Nat
  | [] => 0
  | v :: vs => max v.depth (itemsDepth vs)

/-- The most of them in a member of an object. -/
def membersDepth : List (String × Json) → Nat
  | [] => 0
  | (_, v) :: rest => max v.depth (membersDepth rest)

end

mutual

/-- The value as a tree that is whole. -/
def draft : Json → Draft
  | null => .null
  | boolean b => .boolean b
  | number n => .number n
  | string s => .string s
  | array items => .array (itemDrafts items) .closed
  | object members => .object (memberDrafts members) .closed

/-- The items of an array as such trees. -/
def itemDrafts : List Json → List Draft
  | [] => []
  | v :: vs => v.draft :: itemDrafts vs

/-- The members of an object as such trees. -/
def memberDrafts : List (String × Json) → List (String × Draft)
  | [] => []
  | (name, v) :: rest => (name, v.draft) :: memberDrafts rest

end

theorem memberDrafts_eq_map (members : List (String × Json)) :
    memberDrafts members = members.map (Prod.map id draft) := by
  induction members with
  | nil => rfl
  | cons m members ih => rw [memberDrafts, ih, List.map_cons, Prod.map_apply, id]

theorem memberTokens_eq_map (members : List (String × Json)) : memberTokens members =
    members.map fun m => .string m.1 :: .colon :: m.2.tokens := by
  induction members with
  | nil => rfl
  | cons m members ih => rw [memberTokens, ih, List.map_cons]

theorem mem_intercalate {α : Type} {mark : List α} {texts : List (List α)} {x : α}
    (h : x ∈ mark.intercalate texts) : x ∈ mark ∨ ∃ text ∈ texts, x ∈ text := by
  induction texts with
  | nil => exact absurd h List.not_mem_nil
  | cons text texts ih =>
    cases texts with
    | nil =>
      rw [List.intercalate_singleton] at h
      exact .inr ⟨text, List.mem_cons_self, h⟩
    | cons next texts =>
      rw [List.intercalate_cons_cons, List.append_assoc, List.mem_append, List.mem_append] at h
      rcases h with h | h | h
      · exact .inr ⟨text, List.mem_cons_self, h⟩
      · exact .inl h
      · exact (ih h).imp_right fun ⟨other, hmem, hx⟩ => ⟨other, List.mem_cons_of_mem _ hmem, hx⟩

theorem intercalate_mark {α : Type} (mark : α) (text next : List α) (texts : List (List α)) :
    [mark].intercalate (text :: next :: texts) = text ++ mark :: [mark].intercalate (next :: texts) := by
  rw [List.intercalate_cons_cons, List.append_assoc]
  rfl

/-- The text writes the tokens of the value, with gaps between them. -/
def IsSpelledBy (v : Json) (text : String) : Prop := JsonToken.WritesTokens text.toList v.tokens

end Json

namespace Reading
open Json (intercalate_mark tokens itemTokens memberTokens depth itemsDepth membersDepth draft
  itemDrafts memberDrafts)

variable {limit : Nat}

/-- Reads tokens one by one. -/
def run (limit : Nat) (s : State) (ts : List JsonToken) : State := ts.foldl (step limit) s

@[simp] theorem run_cons (s : State) (t : JsonToken) (ts : List JsonToken) :
    run limit s (t :: ts) = run limit (step limit s t) ts := rfl

/-- A value starts with a token that ends nothing. -/
theorem exists_tokens_cons (v : Json) : ∃ t ts, v.tokens = t :: ts ∧ t ≠ .closeBracket := by
  cases v with
  | array | object =>
    rw [tokens]
    exact ⟨_, _, rfl, by decide⟩
  | null | boolean | number | string =>
    rw [tokens]
    refine ⟨_, _, rfl, ?_⟩
    rintro ⟨⟩

theorem step_itemOrEnd {frames : List Frame} {t : JsonToken} (h : t ≠ .closeBracket) :
    step limit ⟨frames, .itemOrEnd⟩ t = step limit ⟨.array [] :: frames, .value⟩ t := by
  cases t with
  | closeBracket => exact absurd rfl h
  | _ => rfl

theorem exists_intercalate_cons {α : Type} (mark text : List α) (texts : List (List α)) :
    ∃ more, mark.intercalate (text :: texts) = text ++ more := by
  cases texts with
  | nil => exact ⟨[], by rw [List.intercalate_singleton, List.append_nil]⟩
  | cons next texts => exact ⟨_, by rw [List.intercalate_cons_cons, List.append_assoc]⟩

theorem intercalate_itemTokens (v w : Json) (vs : List Json) :
    [JsonToken.comma].intercalate (itemTokens (v :: w :: vs)) =
      v.tokens ++ .comma :: [JsonToken.comma].intercalate (itemTokens (w :: vs)) := by
  rw [itemTokens, itemTokens, intercalate_mark]

theorem intercalate_memberTokens (name : String) (v : Json) (m : String × Json)
    (members : List (String × Json)) :
    [JsonToken.comma].intercalate (memberTokens ((name, v) :: m :: members)) =
      .string name :: .colon :: v.tokens ++
        .comma :: [JsonToken.comma].intercalate (memberTokens (m :: members)) := by
  rw [memberTokens, memberTokens, intercalate_mark]

mutual

/-- Reading the tokens of a value delivers it. -/
theorem run_value : ∀ (v : Json) (frames : List Frame) (rest : List JsonToken),
    frames.length + v.depth ≤ limit →
      run limit ⟨frames, .value⟩ (v.tokens ++ rest) = run limit (deliver v.draft frames) rest
  | .null, _, _, _ => by
    rw [tokens, draft]
    rfl
  | .boolean _, _, _, _ => by
    rw [tokens, draft]
    rfl
  | .number _, _, _, _ => by
    rw [tokens, draft]
    rfl
  | .string _, _, _, _ => by
    rw [tokens, draft]
    rfl
  | .array items, frames, rest, h => by
    rw [depth] at h
    have hopen : step limit ⟨frames, .value⟩ .openBracket = ⟨frames, .itemOrEnd⟩ :=
      if_pos (Nat.lt_of_lt_of_le (Nat.lt_add_of_pos_right (Nat.succ_pos _)) h)
    rw [tokens, List.append_assoc, List.cons_append, run_cons, hopen, List.singleton_append, draft]
    cases items with
    | nil => rfl
    | cons v vs =>
      -- the first item is read as if something had come before it
      have hfirst (ts : List JsonToken) : run limit ⟨frames, .itemOrEnd⟩ (v.tokens ++ ts) =
          run limit ⟨.array [] :: frames, .value⟩ (v.tokens ++ ts) := by
        obtain ⟨t, more, htokens, ht⟩ := exists_tokens_cons v
        rw [htokens, List.cons_append, run_cons, run_cons, step_itemOrEnd ht]
      have hitems := run_items (v :: vs) (List.cons_ne_nil v vs) [] frames rest (by omega)
      obtain ⟨ts, hts⟩ := exists_intercalate_cons [JsonToken.comma] v.tokens (itemTokens vs)
      rw [itemTokens, hts, List.append_assoc] at hitems ⊢
      rw [hfirst, hitems]
      rfl
  | .object members, frames, rest, h => by
    rw [depth] at h
    have hopen : step limit ⟨frames, .value⟩ .openBrace = ⟨frames, .nameOrEnd⟩ :=
      if_pos (Nat.lt_of_lt_of_le (Nat.lt_add_of_pos_right (Nat.succ_pos _)) h)
    rw [tokens, List.append_assoc, List.cons_append, run_cons, hopen, List.singleton_append, draft]
    cases members with
    | nil => rfl
    | cons m members =>
      have hmembers :=
        run_members (m :: members) (List.cons_ne_nil m members) [] frames rest (by omega)
      obtain ⟨name, v⟩ := m
      obtain ⟨ts, hts⟩ := exists_intercalate_cons [JsonToken.comma]
        (.string name :: .colon :: v.tokens) (memberTokens members)
      rw [memberTokens, hts] at hmembers ⊢
      exact hmembers

/-- Reading the items of an array, after `items`, delivers the array. -/
theorem run_items : ∀ (vs : List Json), vs ≠ [] → ∀ (items : List Draft) (frames : List Frame)
    (rest : List JsonToken), frames.length + 1 + itemsDepth vs ≤ limit →
      run limit ⟨.array items :: frames, .value⟩
          ([.comma].intercalate (itemTokens vs) ++ .closeBracket :: rest) =
        run limit (deliver (.array (items.reverse ++ itemDrafts vs) .closed) frames) rest
  | [v], _, items, frames, rest, h => by
    have hv := run_value v (.array items :: frames) (.closeBracket :: rest)
      (Nat.le_trans (Nat.add_le_add_left (Nat.le_max_left _ _) _) h)
    rw [itemTokens, itemTokens, List.intercalate_singleton, hv, itemDrafts, itemDrafts,
      ← List.reverse_cons]
    rfl
  | v :: w :: vs, _, items, frames, rest, h => by
    have hv := run_value v (.array items :: frames)
      (.comma :: ([.comma].intercalate (itemTokens (w :: vs)) ++ .closeBracket :: rest))
      (Nat.le_trans (Nat.add_le_add_left (Nat.le_max_left _ _) _) h)
    have hmore := run_items (w :: vs) (List.cons_ne_nil w vs) (v.draft :: items) frames rest
      (Nat.le_trans (Nat.add_le_add_left (Nat.le_max_right _ _) _) h)
    rw [List.reverse_cons, List.append_assoc, List.singleton_append] at hmore
    rw [intercalate_itemTokens, List.append_assoc, List.cons_append, hv, itemDrafts, ← hmore]
    rfl

/-- Reading the members of an object, after `read`, delivers the object. -/
theorem run_members : ∀ (members : List (String × Json)), members ≠ [] →
    ∀ (read : List (String × Draft)) (frames : List Frame) (rest : List JsonToken),
    frames.length + 1 + membersDepth members ≤ limit →
      run limit ⟨frames, .name read⟩
          ([.comma].intercalate (memberTokens members) ++ .closeBrace :: rest) =
        run limit (deliver (.object (read.reverse ++ memberDrafts members) .closed) frames) rest
  | [(name, v)], _, read, frames, rest, h => by
    have hv := run_value v (.object read name :: frames) (.closeBrace :: rest)
      (Nat.le_trans (Nat.add_le_add_left (Nat.le_max_left _ _) _) h)
    rw [memberTokens, memberTokens, List.intercalate_singleton, memberDrafts, memberDrafts,
      ← List.reverse_cons]
    exact hv
  | (name, v) :: m :: members, _, read, frames, rest, h => by
    have hv := run_value v (.object read name :: frames)
      (.comma :: ([.comma].intercalate (memberTokens (m :: members)) ++ .closeBrace :: rest))
      (Nat.le_trans (Nat.add_le_add_left (Nat.le_max_left _ _) _) h)
    have hmore := run_members (m :: members) (List.cons_ne_nil m members)
      ((name, v.draft) :: read) frames rest
      (Nat.le_trans (Nat.add_le_add_left (Nat.le_max_right _ _) _) h)
    rw [List.reverse_cons, List.append_assoc, List.singleton_append] at hmore
    rw [intercalate_memberTokens, List.append_assoc, List.cons_append, memberDrafts, ← hmore]
    exact hv

end

end Reading

/-- A text with the tokens of a value is read as that value, if its arrays and objects are not nested too
deeply, and nothing is left of it. -/
theorem Draft.ofText_of_scan {format : JsonFormat} {v : Json} {text : List Char}
    (h : JsonToken.scan format.rounding text = v.tokens) (hd : v.depth ≤ format.maxDepth) :
    Draft.ofText format text = (v.draft, false) := by
  have hrun := Reading.run_value v [] [] ((Nat.zero_add _).le.trans hd)
  rw [List.append_nil] at hrun
  unfold Draft.ofText
  rw [h]
  exact congrArg (Reading.finish format.maxDepth) hrun

/-- So is a text that spells a value. -/
theorem Json.IsSpelledBy.ofText {format : JsonFormat} {v : Json} {text : String}
    (h : v.IsSpelledBy text) (hd : v.depth ≤ format.maxDepth) :
    Draft.ofText format text.toList = (v.draft, false) :=
  Draft.ofText_of_scan (JsonToken.scan_of_writes format.rounding h) hd

end FilterQuery
