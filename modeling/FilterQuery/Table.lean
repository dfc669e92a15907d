/-!
# Finite maps from names

* `insertEntry name value entries` : puts an entry into a list of entries in the order of their
  names, in place of an entry of the same name;
* `Table β` : such a list with names strictly increasing, so that a map has one form only;
* `Table.get?`, `Table.insert`, `Table.names`, and how they fit together.

Names are ordered by their characters, which is also the order of their bytes in UTF-8.
-/

set_option autoImplicit false

namespace FilterQuery

universe u
variable {β : Type u}

/-- Puts an entry at its place among entries in increasing order, replacing one of the same name. -/
def insertEntry (name : String) (value : β) : List (String × β) → List (String × β)
  | [] => [(name, value)]
  | (other, old) :: rest =>
    if name < other then (name, value) :: (other, old) :: rest
    else if name = other then (name, value) :: rest
    else (other, old) :: insertEntry name value rest

theorem mem_insertEntry {name : String} {value : β} {entry : String × β} :
    ∀ {entries : List (String × β)}, entry ∈ insertEntry name value entries →
      entry = (name, value) ∨ entry ∈ entries
  | [], h => .inl (by simpa [insertEntry] using h)
  | (other, old) :: rest, h => by
    unfold insertEntry at h
    split at h
    · simpa using h
    · split at h
      · rcases List.mem_cons.1 h with h | h
        · exact .inl h
        · exact .inr (List.mem_cons_of_mem _ h)
      · rcases List.mem_cons.1 h with h | h
        · exact .inr (h ▸ List.mem_cons_self)
        · exact (mem_insertEntry h).imp id (List.mem_cons_of_mem _)

theorem lookup_entry (key name : String) (value : β) (rest : List (String × β)) :
    ((name, value) :: rest).lookup key = if key = name then some value else rest.lookup key := by
  by_cases h : key = name <;> simp [List.lookup_cons, h, beq_false_of_ne]

theorem lookup_insertEntry (name key : String) (value : β) : ∀ entries : List (String × β),
    (insertEntry name value entries).lookup key =
      if key = name then some value else entries.lookup key
  | [] => lookup_entry key name value []
  | (other, old) :: rest => by
    unfold insertEntry
    split
    · exact lookup_entry key name value _
    · split
      · next h => subst h; simp only [lookup_entry]; split <;> rfl
      · next h =>
        simp only [lookup_entry, lookup_insertEntry name key value rest]
        by_cases hk : key = other
        · simp [hk, Ne.symm h]
        · simp [hk]

/-- Whether the names of the entries are strictly increasing. -/
def Ascending (entries : List (String × β)) : Prop := entries.Pairwise (·.1 < ·.1)

theorem ascending_insertEntry (name : String) (value : β) : ∀ {entries : List (String × β)},
    Ascending entries → Ascending (insertEntry name value entries)
  | [], _ => by simp [insertEntry, Ascending]
  | (other, old) :: rest, h => by
    obtain ⟨above, tail⟩ := List.pairwise_cons.1 h
    unfold insertEntry
    split
    · next lt =>
      refine List.pairwise_cons.2 ⟨fun entry mem => ?_, h⟩
      rcases List.mem_cons.1 mem with rfl | mem
      · exact lt
      · exact String.lt_trans lt (above entry mem)
    · next nlt =>
      split
      · next eq => exact List.pairwise_cons.2 ⟨fun entry mem => eq ▸ above entry mem, tail⟩
      · next ne =>
        refine List.pairwise_cons.2 ⟨fun entry mem => ?_, ascending_insertEntry name value tail⟩
        rcases mem_insertEntry mem with rfl | mem
        · exact Std.lt_of_le_of_ne (String.not_lt.1 nlt) (Ne.symm ne)
        · exact above entry mem

/-- A finite map from names, as entries in strictly increasing order of their names. -/
structure Table (β : Type u) where
  entries : List (String × β)
  ascending : Ascending entries

namespace Table

/-- The map without entries. -/
def empty : Table β := ⟨[], .nil⟩

instance : EmptyCollection (Table β) := ⟨empty⟩

/-- The value under a name. -/
def get? (t : Table β) (name : String) : Option β := t.entries.lookup name

/-- Puts a value under a name, replacing what was there. -/
def insert (t : Table β) (name : String) (value : β) : Table β :=
  ⟨insertEntry name value t.entries, ascending_insertEntry name value t.ascending⟩

/-- The names, in increasing order. -/
def names (t : Table β) : List String := t.entries.map (·.1)

/-- The map that `entries` build up one by one, a later entry replacing an earlier one. -/
def ofList (entries : List (String × β)) : Table β :=
  entries.foldl (fun t entry => t.insert entry.1 entry.2) empty

@[simp] theorem get?_insert (t : Table β) (name key : String) (value : β) :
    (t.insert name value).get? key = if key = name then some value else t.get? key :=
  lookup_insertEntry name key value t.entries

theorem names_ascending (t : Table β) : t.names.Pairwise (· < ·) :=
  List.pairwise_map.2 t.ascending

end Table
end FilterQuery
