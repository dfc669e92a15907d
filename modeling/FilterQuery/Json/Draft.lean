import FilterQuery.Json.Token

/-!
# What a JSON text says up to its first fault

A text is read token by token into a tree that keeps members in the order of the text, repeated
names included. Where the text stops being JSON the tree is cut off, so that a reader who is content
with less than the whole text can tell which problem comes first.

* `JsonFormat` : the limits of a text, with `JsonFormat.file` for files;
* `Draft` : such a tree;
* `Reading` : the arrays and objects that are open, and what must come next;
* `Reading.step`, `Reading.finish` : a token and the end of the text;
* `Draft.ofText` : the tree of a text, and whether something follows it.
-/

set_option autoImplicit false

namespace FilterQuery

/-- What kind of JSON text is read. -/
structure JsonFormat where
  /-- The largest number of arrays and objects inside one another. -/
  maxDepth : Nat
  /-- How the decimals become floating-point numbers. -/
  rounding : Rounding
deriving DecidableEq, Repr

/-- The format of files. -/
def JsonFormat.file : JsonFormat := ⟨127, .stepwise⟩

/-- How an array or an object ends. -/
inductive Ending where
  /-- With its closing bracket. -/
  | closed
  /-- Where the text stops being JSON. -/
  | cut
deriving DecidableEq, Repr

/-- A value, as far as a text says it. -/
inductive Draft where
  | null
  | boolean (b : Bool)
  | number (n : JsonNumber)
  | string (s : String)
  | array (items : List Draft) (ending : Ending)
  | object (members : List (String × Draft)) (ending : Ending)
  /-- No value. -/
  | missing
deriving Repr, Inhabited

namespace Reading

/-- An open array with its items so far, or an open object with its members so far and the name of
the member whose value is being read; the last ones first. -/
inductive Frame where
  | array (items : List Draft)
  | object (members : List (String × Draft)) (name : String)

/-- What must come next. -/
inductive Mode where
  | value
  /-- The first item of an array, or its end. -/
  | itemOrEnd
  /-- The first name of an object, or its end. -/
  | nameOrEnd
  /-- A further name, after a comma. -/
  | name (members : List (String × Draft))
  | colon (members : List (String × Draft)) (name : String)
  /-- A comma or the end of an array. -/
  | afterItem (items : List Draft)
  /-- A comma or the end of an object. -/
  | afterMember (members : List (String × Draft))
  /-- Nothing: the value is read. -/
  | done (root : Draft)
  /-- Nothing that matters: the value was read, and more came. -/
  | overrun (root : Draft)
  /-- Nothing that matters: the text is no JSON. -/
  | stopped (root : Draft)

/-- The frames around the next token, the innermost first, and what must come. -/
structure State where
  frames : List Frame
  mode : Mode

/-- The start of a text. -/
def start : State := ⟨[], .value⟩

/-- Puts a value where one must come. -/
def deliver (d : Draft) : List Frame → State
  | [] => ⟨[], .done d⟩
  | .array items :: rest => ⟨rest, .afterItem (d :: items)⟩
  | .object members name :: rest => ⟨rest, .afterMember ((name, d) :: members)⟩

/-- Breaks the reading off, with `d` as the last thing that was read. -/
def stop (d : Draft) : List Frame → State
  | [] => ⟨[], .stopped d⟩
  | .array items :: rest => stop (.array (d :: items).reverse .cut) rest
  | .object members name :: rest => stop (.object ((name, d) :: members).reverse .cut) rest

/-- Reads a token where a value must come. At most `limit` arrays and objects may be open. -/
def value (limit : Nat) (frames : List Frame) : JsonToken → State
  | .null => deliver .null frames
  | .boolean b => deliver (.boolean b) frames
  | .number n => deliver (.number n) frames
  | .string s => deliver (.string s) frames
  | .openBracket => if frames.length < limit then ⟨frames, .itemOrEnd⟩ else stop .missing frames
  | .openBrace => if frames.length < limit then ⟨frames, .nameOrEnd⟩ else stop .missing frames
  | _ => stop .missing frames

/-- Reads a token. -/
def step (limit : Nat) (s : State) (t : JsonToken) : State :=
  match s.mode with
  | .value => value limit s.frames t
  | .itemOrEnd =>
    match t with
    | .closeBracket => deliver (.array [] .closed) s.frames
    | t => value limit (.array [] :: s.frames) t
  | .nameOrEnd =>
    match t with
    | .closeBrace => deliver (.object [] .closed) s.frames
    | .string name => ⟨s.frames, .colon [] name⟩
    | _ => stop (.object [] .cut) s.frames
  | .name members =>
    match t with
    | .string name => ⟨s.frames, .colon members name⟩
    | _ => stop (.object members.reverse .cut) s.frames
  | .colon members name =>
    match t with
    | .colon => ⟨.object members name :: s.frames, .value⟩
    | _ => stop .missing (.object members name :: s.frames)
  | .afterItem items =>
    match t with
    | .closeBracket => deliver (.array items.reverse .closed) s.frames
    | .comma => ⟨.array items :: s.frames, .value⟩
    | _ => stop (.array items.reverse .cut) s.frames
  | .afterMember members =>
    match t with
    | .closeBrace => deliver (.object members.reverse .closed) s.frames
    | .comma => ⟨s.frames, .name members⟩
    | _ => stop (.object members.reverse .cut) s.frames
  | .done root => ⟨[], .overrun root⟩
  | .overrun _ | .stopped _ => s

/-- The value that was read by the end of the text, and whether more came after it. -/
def finish (limit : Nat) (s : State) : Draft × Bool :=
  match s.mode with
  | .done root => (root, false)
  | .overrun root => (root, true)
  | .stopped root => (root, false)
  | _ =>
    match (step limit s .malformed).mode with
    | .stopped root => (root, false)
    | _ => (.missing, false)

end Reading

/-- The value that a text starts with, and whether more comes after it. -/
def Draft.ofText (format : JsonFormat) (text : List Char) : Draft × Bool :=
  Reading.finish format.maxDepth
    ((JsonToken.scan format.rounding text).foldl (Reading.step format.maxDepth) Reading.start)

end FilterQuery
