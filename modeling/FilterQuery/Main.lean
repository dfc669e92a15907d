import FilterQuery.Command

/-!
# The program

Reads the files that the arguments name, runs the command and reports how it ended.
-/

set_option autoImplicit false

namespace FilterQuery

/-- How to call the program. -/
def usage : String :=
  "usage: filterquery --schema FILE --root TYPE [--records FILE] [--wildcard-equality] " ++
    "[--ignore-case] [-v]... QUERY"

/-- The contents of a file, if it can be read. -/
def readFile? (path : String) : IO (Option String) := do
  try return some (← IO.FS.readFile path) catch _ => return none

end FilterQuery

open FilterQuery

/-- Runs the command. -/
def main (arguments : List String) : IO UInt32 := do
  match Command.ofArguments? arguments with
  | none =>
    IO.eprintln usage
    return 2
  | some c =>
    let paths := c.schema :: c.records.toList
    let contents ← paths.mapM fun path => return (path, ← readFile? path)
    let result := c.result fun path => (contents.lookup path).join
    IO.print (String.ofList result.output)
    if let some failure := result.failure then
      IO.eprintln failure.message
    return result.status.toUInt32
