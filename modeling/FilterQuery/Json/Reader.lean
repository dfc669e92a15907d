import FilterQuery.Json.Draft

/-!
# JSON values from text

`Json.ofText? format text` : the value of a text in the given format. Of members with the same name
the last one counts.
-/

set_option autoImplicit false

namespace FilterQuery

mutual

/-- The value of a tree that is whole. -/
def Draft.toJson? : Draft → Option Json
  | .null => some .null
  | .boolean b => some (.boolean b)
  | .number n => some (.number n)
  | .string s => some (.string s)
  | .array items .closed => (itemsToJson? items).map Json.array
  | .object members .closed =>
    (membersToJson? members).map fun entries =>
      .object (entries.foldl (fun es e => insertEntry e.1 e.2 es) [])
  | _ => none

/-- The values of items that are whole. -/
def Draft.itemsToJson? : List Draft → Option (List Json)
  | [] => some []
  | d :: ds => do return (← d.toJson?) :: (← itemsToJson? ds)

/-- The values of members that are whole. -/
def Draft.membersToJson? : List (String × Draft) → Option (List (String × Json))
  | [] => some []
  | (name, d) :: ds => do return (name, ← d.toJson?) :: (← membersToJson? ds)

end

/-- The value of a text. -/
def Json.ofText? (format : JsonFormat) (text : List Char) : Option Json :=
  match Draft.ofText format text with
  | (d, false) => d.toJson?
  | (_, true) => none

end FilterQuery
