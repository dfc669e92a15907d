import FilterQuery.Diagnosis
import FilterQuery.Json.Reader
import FilterQuery.Json.Text
import FilterQuery.Record
import FilterQuery.Schema.Document

/-!
# The command

The command compiles a query against the schema in a file. It prints the predicate or, given a file
with a JSON array of records, those on which the predicate holds, one on each line.

* `Command` : what the arguments ask for, and `Command.ofArguments?`;
* `CommandFailure` : why there is no output;
* `Command.run` : the work, with what it writes and where it fails;
* `Command.execute` : exit status and output, from the arguments and the contents of the files.
-/

set_option autoImplicit false

namespace FilterQuery

/-- What the command is asked for. -/
structure Command where
  schema : String
  root : String
  records : Option String
  options : Options
  query : String

/-! ### Arguments -/

/-- The parts of a command that were read so far. -/
structure CommandParts where
  schema : Option String := none
  root : Option String := none
  records : Option String := none
  wildcardEquality : Bool := false
  ignoreCase : Bool := false
  query : Option String := none

/-- An option that takes a value. -/
inductive ValueOption where
  | schema | root | records

/-- An option without a value. -/
inductive Flag where
  | wildcardEquality | ignoreCase
  /-- More of it makes the command write more about its work. -/
  | verbose

namespace CommandParts

/-- Sets an option that was not set before; the name of a file is not empty. -/
def set (parts : CommandParts) (option : ValueOption) (value : String) : Option CommandParts :=
  match option with
  | .schema =>
    if parts.schema.isSome ∨ value = "" then none else some { parts with schema := some value }
  | .root => if parts.root.isSome then none else some { parts with root := some value }
  | .records =>
    if parts.records.isSome ∨ value = "" then none else some { parts with records := some value }

/-- Raises a flag that was not raised before, unless it counts. -/
def raise (parts : CommandParts) : Flag → Option CommandParts
  | .wildcardEquality =>
    if parts.wildcardEquality then none else some { parts with wildcardEquality := true }
  | .ignoreCase => if parts.ignoreCase then none else some { parts with ignoreCase := true }
  | .verbose => some parts

/-- Sets the query, of which there is one. -/
def ask (parts : CommandParts) (query : String) : Option CommandParts :=
  if parts.query.isSome then none else some { parts with query := some query }

/-- The option or flag of a long name. -/
def longOption? : List Char → Option (ValueOption ⊕ Flag) := fun name =>
  match String.ofList name with
  | "schema" => some (.inl .schema)
  | "root" => some (.inl .root)
  | "records" => some (.inl .records)
  | "wildcard-equality" => some (.inr .wildcardEquality)
  | "ignore-case" => some (.inr .ignoreCase)
  | "verbose" => some (.inr .verbose)
  | _ => none

/-- The option or flag of a letter. -/
def shortOption? : Char → Option (ValueOption ⊕ Flag)
  | 's' => some (.inl .schema)
  | 'r' => some (.inl .root)
  | 'i' => some (.inr .ignoreCase)
  | 'v' => some (.inr .verbose)
  | _ => none

/-- What an argument asks for: the parts with it, and the option whose value must come next. -/
abbrev Step := Option (CommandParts × Option ValueOption)

/-- Reads an argument after two hyphens: a name, and a value after `=`. -/
def long (parts : CommandParts) (text : List Char) : Step :=
  let name := text.takeWhile (· ≠ '=')
  match longOption? name, text.drop name.length with
  | some (.inl option), [] => some (parts, some option)
  | some (.inl option), _ :: value => (parts.set option (String.ofList value)).map (·, none)
  | some (.inr flag), [] => (parts.raise flag).map (·, none)
  | _, _ => none

/-- Reads an argument after one hyphen: letters, and the value of the last one, with or without `=`
before it. -/
def short (parts : CommandParts) : List Char → Step
  | [] => some (parts, none)
  | c :: cs =>
    match shortOption? c, cs with
    | some (.inl option), [] => some (parts, some option)
    | some (.inl option), '=' :: value => (parts.set option (String.ofList value)).map (·, none)
    | some (.inl option), value => (parts.set option (String.ofList value)).map (·, none)
    | some (.inr flag), cs => (parts.raise flag).bind (short · cs)
    | none, _ => none

/-- Reads the arguments, the first of which is the value of the option `pending` if there is one. -/
def read (parts : CommandParts) : (pending : Option ValueOption) → List String → Option CommandParts
  | none, [] => some parts
  | some _, [] => none
  | pending, text :: rest =>
    match pending, text.toList with
    | none, ['-', '-'] => rest.foldlM ask parts
    | none, '-' :: '-' :: name => (parts.long name).bind fun (parts, next) => read parts next rest
    | none, '-' :: c :: cs => (parts.short (c :: cs)).bind fun (parts, next) => read parts next rest
    | none, _ => (parts.ask text).bind fun parts => read parts none rest
    | some _, '-' :: _ :: _ => none
    | some option, _ => (parts.set option text).bind fun parts => read parts none rest

end CommandParts

/-- What the arguments ask for, if they are well formed. -/
def Command.ofArguments? (arguments : List String) : Option Command := do
  let parts ← CommandParts.read {} none arguments
  return {
    schema := ← parts.schema
    root := ← parts.root
    records := parts.records
    options := ⟨parts.wildcardEquality, parts.ignoreCase⟩
    query := ← parts.query }

/-! ### Output -/

/-- Why there is no output. -/
inductive CommandFailure where
  | noSchema (path : String)
  | badSchema (path : String)
  | badQuery (error : QueryError)
  | noRecords (path : String)
  | badRecords (path : String)

namespace CommandFailure

/-- What was being done with a file. -/
def context? : CommandFailure → Option String
  | noSchema path => some ("reading schema " ++ path)
  | badSchema path => some ("parsing schema " ++ path)
  | badQuery _ => none
  | noRecords path => some ("reading records " ++ path)
  | badRecords path => some ("records file " ++ path ++ " must hold a JSON array")

/-- The code of a query's error. -/
def code? : CommandFailure → Option String
  | badQuery error => some error.code
  | _ => none

/-- The wording of a failure. -/
def message : CommandFailure → String
  | badQuery error => error.message
  | failure => "Error: " ++ failure.context?.getD ""

end CommandFailure

/-- The records of a JSON array. -/
def recordsOfText? (text : String) : Option (List Json) :=
  match Json.ofText? .file text.toList with
  | some (.array records) => some records
  | _ => none

/-- Work that writes output and may fail, which takes nothing back that is written. -/
abbrev CommandWork := ExceptT CommandFailure (StateM (List Char))

/-- Writes a line behind what is written. -/
def writeLine (text : List Char) : CommandWork Unit := modify (· ++ (text ++ ['\n']))

/-- The value if there is one, or a failure. -/
def orFail {α : Type} (failure : CommandFailure) : Option α → CommandWork α
  | some a => pure a
  | none => throw failure

/-- The value of a result, or the failure that comes of its error. -/
def orFailWith {ε α : Type} (failure : ε → CommandFailure) : Except ε α → CommandWork α
  | .ok a => pure a
  | .error e => throw (failure e)

/-- Writes the predicate or, if the command names a file of records, those on which it holds. -/
def Command.write (c : Command) (files : String → Option String) (predicate : Predicate) :
    CommandWork Unit :=
  match c.records with
  | none => writeLine predicate.text.toList
  | some path => do
    let text ← orFail (.noRecords path) (files path)
    let records ← orFail (.badRecords path) (recordsOfText? text)
    (Predicate.find predicate records).forM fun r => writeLine r.text

/-- The work of a command, where `files` gives the contents of the files that can be read. -/
def Command.run [PatternSize] (c : Command) (files : String → Option String) :
    CommandWork Unit := do
  let schemaText ← orFail (.noSchema c.schema) (files c.schema)
  let schema ← orFailWith (fun _ => .badSchema c.schema) (Schema.ofText schemaText)
  let predicate ← orFailWith .badQuery (Predicate.ofText c.query schema c.root c.options)
  c.write files predicate

/-- How a command ends: its exit status, its output, and the failure if it was one of the work and
not of the arguments. -/
structure CommandResult where
  status : Nat
  output : List Char
  failure : Option CommandFailure

/-- How the work of a command ends. -/
def Command.result [PatternSize] (c : Command) (files : String → Option String) : CommandResult :=
  match (c.run files).run.run [] with
  | (.ok _, output) => ⟨0, output, none⟩
  | (.error failure, output) => ⟨1, output, some failure⟩

/-- How the command with the given arguments ends. -/
def Command.execute [PatternSize] (arguments : List String) (files : String → Option String) :
    CommandResult :=
  match Command.ofArguments? arguments with
  | none => ⟨2, [], none⟩
  | some c => c.result files

end FilterQuery
