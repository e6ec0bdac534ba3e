import PatternWorkbench.Command.Program

/-!
# Command line

Reads what an invocation may need, carries it out and writes what comes of it.
Nothing else is written: there is no log, whatever the environment asks for.
-/

open PatternWorkbench
open PatternWorkbench.Command

/-- The text that an action reads, or why it cannot be had. -/
def attempt (reading : IO String) : IO (Except ReadFault Text) := do
  try
    return .ok (← reading).toList
  catch
    | .noFileOrDirectory .. => return .error .notFound
    | .inappropriateType _ 20 _ => return .error .notDirectory
    | .inappropriateType _ 21 _ => return .error .isDirectory
    | error => return .error (.other (toString error).toList)

def surroundingsOf (invocation : Invocation) : IO Surroundings := do
  let files ← invocation.paths.mapM fun path => do
    return (path, ← attempt (IO.FS.readFile (String.ofList path)))
  let input ←
    match invocation.request with
    | .run _ (.file path) _ _ =>
      if path = standardInput then attempt do (← IO.getStdin).readToEnd
      else pure (.ok [])
    | _ => pure (.ok [])
  return {
    input
    read := fun path => (files.lookup path).getD (.error .notFound) }

def write (outcome : Outcome) : IO UInt32 := do
  IO.print (String.ofList outcome.output)
  IO.eprint (String.ofList outcome.errors)
  return outcome.code.toUInt32

def main (arguments : List String) : IO UInt32 := do
  match Invocation.read (arguments.map String.toList) with
  | .error halt => write (.ofHalt halt)
  | .ok invocation => write (carryOut (← surroundingsOf invocation) invocation)
