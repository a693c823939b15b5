import QueryBind.Shell.Program

/-!
# The command line

Reads the files that the arguments name and the lines of the standard input, and prints what
`QueryBind.Shell` answers. A table has no time of creation here, so the comment above it says no
more than that it was created in this run, and the names of a FROM list are enumerated as listed.
-/

namespace QueryBind.Shell

/-- Prints texts to the two outputs, in order. -/
def printAll (printed : List Printed) : IO Unit := do
  let stdout ← IO.getStdout
  let stderr ← IO.getStderr
  for p in printed do
    match p with
    | .out text => stdout.putStr text; stdout.flush
    | .err text => stderr.putStr text; stderr.flush

/-- The text of a file, if it can be read. -/
def readText? (path : String) : IO (Option String) := do
  try
    return some (← IO.FS.readFile path)
  catch _ =>
    return none

/-- The texts of the files that options name. -/
def loadFiles (o : Options) : IO FileTexts := do
  let read (path : Option String) : IO (Option String) := do
    match path with
    | none => return none
    | some path => readText? path
  return { config := ← read o.config, schema := ← read o.schema, init := ← read o.init }

/-- Answers lines from the standard input until one ends the run or the input ends. -/
partial def serve (stamp : String) (p : Prompt) : IO Nat := do
  let line ← (← IO.getStdin).getLine
  if line.isEmpty then
    let (exitCode, printed) := Prompt.close
    printAll printed
    return exitCode
  else
    let turn := p.answer stamp line .listed
    printAll turn.printed
    match turn.exitCode with
    | some exitCode => return exitCode
    | none => serve stamp turn.prompt

/-- A whole run and its exit code. -/
def perform (arguments : List String) : IO UInt32 := do
  match Options.ofArguments arguments with
  | .error stop =>
    printAll stop.ending.2
    return stop.ending.1.toUInt32
  | .ok o =>
    match o.start (← loadFiles o) (fun _ => .listed) with
    | .ended exitCode printed =>
      printAll printed
      return exitCode.toUInt32
    | .prompting printed p =>
      printAll printed
      return (← serve "in this run" p).toUInt32

end QueryBind.Shell

def main (arguments : List String) : IO UInt32 := QueryBind.Shell.perform arguments
