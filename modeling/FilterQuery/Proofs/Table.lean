import FilterQuery.Table
import Mathlib.Data.List.Induction
import Mathlib.Data.String.Basic

/-!
# Tables and the bytes of their names

The order of characters is that of the bytes which encode them in UTF-8, and no encoding begins
another, so that texts are in the order of their bytes.

* `foldl_insertEntry` : entries in increasing order stay as they are when they are put in one by one;
* `Table.get?_ofList`, `Table.mem_names_ofList` : the table that entries build up has their names, each
  with the value of the last of its entries;
* `bytes` : the bytes of a text;
* `encode_lt` : the encodings of two characters, whatever follows them;
* `bytes_lt` : two texts, and `Table.names_bytes`, the names of a table.
-/

set_option autoImplicit false

namespace FilterQuery

/-! ### Entries -/

universe u v

section
variable {β : Type u}

/-- An entry whose name comes after all others is put at the end. -/
theorem insertEntry_of_forall_lt {name : String} (value : β) {entries : List (String × β)}
    (h : ∀ entry ∈ entries, entry.1 < name) :
    insertEntry name value entries = entries ++ [(name, value)] := by
  induction entries with
  | nil => rfl
  | cons entry entries ih =>
    obtain ⟨hlt, hentries⟩ := List.forall_mem_cons.1 h
    have hne : name ≠ entry.1 := fun heq => String.lt_irrefl name (heq ▸ hlt)
    rw [insertEntry, if_neg (String.lt_asymm hlt), if_neg hne, ih hentries, List.cons_append]

theorem ascending_foldl_insertEntry {entries es : List (String × β)} (h : Ascending es) :
    Ascending (entries.foldl (fun es e => insertEntry e.1 e.2 es) es) := by
  induction entries generalizing es with
  | nil => exact h
  | cons entry entries ih => exact ih (ascending_insertEntry entry.1 entry.2 h)

theorem mem_foldl_insertEntry {entries : List (String × β)} {entry : String × β}
    (h : entry ∈ entries.foldl (fun es e => insertEntry e.1 e.2 es) []) : entry ∈ entries := by
  induction entries using List.reverseRecOn with
  | nil => cases h
  | append_singleton entries last ih =>
    rw [List.foldl_append, List.foldl_cons, List.foldl_nil] at h
    rcases mem_insertEntry h with rfl | h
    · exact List.mem_append_right _ List.mem_cons_self
    · exact List.mem_append_left _ (ih h)

/-- Entries in increasing order are put one behind the other. -/
theorem foldl_insertEntry {entries : List (String × β)} (h : Ascending entries) :
    entries.foldl (fun es e => insertEntry e.1 e.2 es) [] = entries := by
  induction entries using List.reverseRecOn with
  | nil => rfl
  | append_singleton entries entry ih =>
    obtain ⟨hentries, -, hlt⟩ := List.pairwise_append.1 h
    have hlast : ∀ other ∈ entries, other.1 < entry.1 :=
      fun other hother => hlt other hother entry List.mem_cons_self
    rw [List.foldl_append, ih hentries, List.foldl_cons, List.foldl_nil,
      insertEntry_of_forall_lt entry.2 hlast]

end

namespace Table

variable {β : Type u} {γ : Type v}

theorem lookup_map (f : β → γ) (name : String) (entries : List (String × β)) :
    (entries.map (Prod.map id f)).lookup name = (entries.lookup name).map f := by
  induction entries with
  | nil => rfl
  | cons entry entries ih =>
    obtain ⟨other, value⟩ := entry
    rw [List.map_cons, Prod.map, lookup_entry, lookup_entry, ih]
    by_cases h : name = other <;> simp [h]

/-- The last entry of a name counts. -/
theorem get?_ofList (entries : List (String × β)) (name : String) :
    (ofList entries).get? name = entries.reverse.lookup name := by
  induction entries using List.reverseRecOn with
  | nil => rfl
  | append_singleton entries entry ih =>
    obtain ⟨other, value⟩ := entry
    rw [ofList, List.foldl_append, List.reverse_append, List.reverse_singleton,
      List.singleton_append, lookup_entry, ← ih]
    exact get?_insert _ other name value

theorem isSome_lookup {entries : List (String × β)} {name : String} :
    (entries.lookup name).isSome ↔ name ∈ entries.map Prod.fst := by
  induction entries with
  | nil => simp
  | cons entry entries ih =>
    obtain ⟨other, value⟩ := entry
    rw [lookup_entry, List.map_cons, List.mem_cons, ← ih]
    by_cases h : name = other <;> simp [h]

theorem mem_names_ofList {entries : List (String × β)} {name : String} :
    name ∈ (ofList entries).names ↔ name ∈ entries.map Prod.fst := by
  have hget : name ∈ (ofList entries).names ↔ ((ofList entries).get? name).isSome :=
    isSome_lookup.symm
  rw [hget, get?_ofList, isSome_lookup, List.map_reverse, List.mem_reverse]

end Table

/-! ### Bytes -/

/-- The bytes of a text in UTF-8. -/
def bytes (text : String) : List UInt8 := text.toUTF8.data.toList

theorem bytes_eq_flatMap (text : String) :
    bytes text = text.toList.flatMap String.utf8EncodeChar := by
  rw [bytes, String.toUTF8_eq_toByteArray, ← String.utf8Encode_toList, List.utf8Encode,
    List.data_toByteArray]

/-- Bytes compare as the numbers they are, and the first ones that differ decide. -/
theorem byte_lt_iff {m n : Nat} {as bs : List UInt8} (hm : m < 256) (hn : n < 256) :
    UInt8.ofNat m :: as < UInt8.ofNat n :: bs ↔ m < n ∨ m = n ∧ as < bs := by
  have hm' : (UInt8.ofNat m).toNat = m := UInt8.toNat_ofNat_of_lt' hm
  have hn' : (UInt8.ofNat n).toNat = n := UInt8.toNat_ofNat_of_lt' hn
  rw [List.cons_lt_cons_iff, UInt8.lt_iff_toNat_lt, ← UInt8.toNat_inj, hm', hn']

/-- The encoding of a lesser character is less, whatever follows. -/
theorem encode_lt {c d : Char} (h : c < d) (as bs : List UInt8) :
    String.utf8EncodeChar c ++ as < String.utf8EncodeChar d ++ bs := by
  have hlt : c.val.toNat < d.val.toNat := h
  have hmax : d.val.toNat < 1114112 := by
    rcases d.valid with h | h
    · exact Nat.lt_trans h (by decide)
    · exact h.2
  -- All bytes as digits to the base 64, so that they can be compared from the last one on.
  have hthree (n : Nat) : n / 4096 = n / 64 / 64 := by omega
  have hfour (n : Nat) : n / 262144 = n / 64 / 64 / 64 := by omega
  unfold String.utf8EncodeChar
  dsimp only
  generalize c.val.toNat = m at hlt
  generalize d.val.toNat = n at hlt hmax
  split_ifs <;> simp (disch := omega) only [List.cons_append, List.nil_append, byte_lt_iff, hthree,
    hfour] <;> omega

theorem flatMap_encode_lt {cs ds : List Char} (h : cs < ds) :
    cs.flatMap String.utf8EncodeChar < ds.flatMap String.utf8EncodeChar := by
  induction cs generalizing ds with
  | nil =>
    cases ds with
    | nil => exact absurd h (List.lt_irrefl _)
    | cons d ds =>
      obtain ⟨b, bs, hb⟩ := List.exists_cons_of_ne_nil (String.utf8EncodeChar_ne_nil (c := d))
      rw [List.flatMap_nil, List.flatMap_cons, hb]
      exact List.nil_lt_cons _ _
  | cons c cs ih =>
    cases ds with
    | nil => exact absurd h (List.not_lt_nil _)
    | cons d ds =>
      rw [List.flatMap_cons, List.flatMap_cons]
      rcases List.cons_lt_cons_iff.1 h with hcd | ⟨rfl, htail⟩
      · exact encode_lt hcd _ _
      · exact List.append_left_lt (ih htail)

/-- A lesser text has lesser bytes. -/
theorem bytes_lt {a b : String} (h : a < b) : bytes a < bytes b := by
  rw [bytes_eq_flatMap, bytes_eq_flatMap]
  exact flatMap_encode_lt (String.lt_iff_toList_lt.1 h)

/-- The names of a table are in strictly increasing order of their bytes. -/
theorem Table.names_bytes {β : Type*} (t : Table β) :
    t.names.Pairwise fun a b => bytes a < bytes b :=
  t.names_ascending.imp bytes_lt

end FilterQuery
