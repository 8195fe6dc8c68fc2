import TripleStore.Command.Report

/-!
# The command

Reads the variables and the file, and prints what the report says: the notices as
log lines, then the output.
-/

namespace TripleStore.Command

def readError : IO.Error → ReadError
  | .noFileOrDirectory .. => .notFound
  | .inappropriateType _ 21 _ => .isDirectory
  | .inappropriateType _ 20 _ => .notDirectory
  | .invalidArgument _ 36 _ => .nameTooLong
  | e => .other (toString e)

def readContents (path : String) : IO (Except ReadError ByteArray) := do
  try
    return .ok (← IO.FS.readBinFile path)
  catch e =>
    return .error (readError e)

def emitReport (r : Report) : IO UInt32 := do
  for line in r.log do
    IO.eprintln line
  IO.print r.output
  return r.code

/-- The variables as they are: `IO.getEnv` would mend a value that is no text. -/
def readEnvironment : IO Environment := do
  return .ofBlock (← IO.FS.readBinFile "/proc/self/environ").toList

def runProcess : IO UInt32 := do
  let env ← readEnvironment
  match Settings.ofEnvironment env with
  | .ok settings =>
    let contents ← readContents settings.file
    emitReport (run env fun _ => contents)
  | .error _ => emitReport (run env fun _ => .error .notFound)

end TripleStore.Command

def main : IO UInt32 := TripleStore.Command.runProcess
