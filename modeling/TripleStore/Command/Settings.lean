/-!
# The settings of the command

They come from three variables of the process: the table to load, a predicate to filter
by, and whether to dump. Only the first has to be there.
-/

namespace TripleStore.Command

def fileVariable : String := "RESDB_STATEMENTS_FILE"

def predicateVariable : String := "RESDB_SELECT_PREDICATE"

def dumpVariable : String := "RESDB_DUMP"

/-- `ToolConfig`. -/
structure Settings where
  file : String
  /-- Never empty. -/
  predicate : Option String
  dump : Bool
  deriving DecidableEq, Repr, Inhabited

inductive SettingsError where
  | missing (var : String)
  | empty (var : String)
  | notBoolean (var value : String)
  deriving DecidableEq, Repr, Inhabited

def SettingsError.message : SettingsError → String
  | missing var => "missing required environment variable: " ++ var
  | empty var => "invalid value for " ++ var ++ ": must not be empty"
  | notBoolean var value =>
    "invalid value for " ++ var ++ ": '" ++ value ++ "' is not a boolean (expected true or false)"

/-! ## The variables of a process -/

/-- The value of a variable is bytes, which need not be text. -/
abbrev Environment := String → Option ByteArray

/-- The text of a variable, `var(name).ok()`. One that holds no text counts as unset. -/
def Environment.text? (env : Environment) (name : String) : Option String :=
  env name >>= String.fromUTF8?

/-- The variables in the block of a process: each is `name=value` and ends at a zero byte. -/
def Environment.ofBlock (block : List UInt8) : Environment := fun name =>
  (block.splitOn 0).findSome? fun entry =>
    ((name ++ "=").toUTF8.toList.isPrefixOf? entry).map fun value => ⟨value.toArray⟩

/-! ## Reading the variables -/

def readFile : Option String → Except SettingsError String
  | none => .error (.missing fileVariable)
  | some file => if file = "" then .error (.empty fileVariable) else .ok file

/-- An empty predicate is no filter. -/
def readPredicate (predicate : Option String) : Option String := predicate.filter fun p => p ≠ ""

def readDump : Option String → Except SettingsError Bool
  | none => .ok true
  | some value =>
    if value = "true" ∨ value = "1" then .ok true
    else if value = "false" ∨ value = "0" then .ok false
    else .error (.notBoolean dumpVariable value)

/-- `from_lookup`. The file is looked at first, so of two faults its one is reported. -/
def Settings.read (lookup : String → Option String) : Except SettingsError Settings := do
  let file ← readFile (lookup fileVariable)
  let dump ← readDump (lookup dumpVariable)
  return { file, predicate := readPredicate (lookup predicateVariable), dump }

/-- `from_env`. -/
def Settings.ofEnvironment (env : Environment) : Except SettingsError Settings :=
  Settings.read env.text?

end TripleStore.Command
