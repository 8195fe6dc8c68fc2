import TripleStore.Command.Settings
import TripleStore.Select
import TripleStore.Table.Import
import TripleStore.Text.Quoted

/-!
# What the command does

It reads its settings, loads the table, and prints the statements with the chosen
predicate, or the dump, or nothing. It prints only if nothing before failed.
-/

namespace TripleStore.Command

inductive Notice where
  | badSettings (e : SettingsError)
  | loaded (settings : Settings)
  | imported (count : Nat)
  | notImported (file : String) (e : ImportError)
  | selected (count : Nat) (predicate : String)
  | notWritten (message : String)
  deriving DecidableEq, Repr, Inhabited

/-! ## Notices as lines -/

def predicateText : Option String → String
  | none => "None"
  | some p => "Some(" ++ Text.quoted p ++ ")"

def Notice.level : Notice → Level
  | badSettings _ | notImported _ _ | notWritten _ => .error
  | loaded _ | imported _ | selected _ _ => .info

def Notice.message : Notice → String
  | badSettings e => "Failed to load configuration: " ++ e.message
  | loaded s =>
    "Loaded configuration: statements_file=" ++ s.file ++ ", select_predicate=" ++
      predicateText s.predicate ++ ", dump=" ++ toString s.dump
  | imported count => "imported " ++ toString count ++ " statements"
  | notImported file e => "Failed to import " ++ file ++ ": " ++ e.message
  | selected count predicate =>
    toString count ++ " statements with predicate " ++ predicate
  | notWritten message => "Failed to write output: " ++ message

/-- Characters that a terminal would act on are written as escapes. -/
def harmless (c : Char) : List Char :=
  match c with
  | '\x1b' => "\\x1b".toList
  | '\x07' => "\\x07".toList
  | '\x08' => "\\x08".toList
  | '\x0c' => "\\x0c".toList
  | '\x7f' => "\\x7f".toList
  | c => if 0x80 ≤ c.toNat ∧ c.toNat ≤ 0x9f then Text.codePoint c else [c]

/-- The lines of a notice. A message with line feeds in it goes on in further lines. -/
def Notice.lines (n : Notice) : List String :=
  let text := n.level.text ++ " resdb: " ++ String.ofList (n.message.toList.flatMap harmless)
  (text.toList.splitOn '\n').map String.ofList

/-! ## The run -/

structure Report where
  code : UInt32 := 0
  output : String := ""
  notices : List Notice
  deriving DecidableEq, Repr, Inhabited

def Report.log (r : Report) : List String := r.notices.flatMap Notice.lines

/-- A run that failed: it prints nothing. -/
def Report.failure (notices : List Notice) : Report := { code := 1, notices }

def withPredicate (name : String) : Expr := Term.predicate.against .eq (.text name)

/-- What is printed of a store, after the notices so far; with a filter by `print_matching`. -/
def printed (settings : Settings) (st : Store) (notices : List Notice) : Report :=
  match settings.predicate with
  | some name =>
    match (st.select .wholeStatement (withPredicate name)).outcome with
    | .ok found =>
      { output := String.join (found.map fun s => s.line ++ "\n")
        notices := notices ++ [.selected found.length name] }
    | .error e => .failure (notices ++ [.notWritten e.message])
  | none => { output := if settings.dump then st.dumpText else "", notices }

def loaded (settings : Settings) (contents : Except ReadError ByteArray) : Report :=
  let u := Store.empty.importFile contents
  match u.answer with
  | .ok count => printed settings u.store [.loaded settings, .imported count]
  | .error e => .failure [.loaded settings, .notImported settings.file e]

/-- `main`, with the files given by a function. -/
def run (env : Environment) (read : String → Except ReadError ByteArray) : Report :=
  match Settings.ofEnvironment env with
  | .ok settings => loaded settings (read settings.file)
  | .error e => .failure [.badSettings e]

end TripleStore.Command
