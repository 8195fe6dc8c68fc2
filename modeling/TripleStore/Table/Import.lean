import TripleStore.Store
import TripleStore.Table.Line
import TripleStore.Text.Lines

/-!
# Import

The statements of a table go into the store line by line. The first bad line stops
the import, and the statements before it stay. A file is decoded whole first: if
that fails, nothing is imported.
-/

namespace TripleStore

/-- Why the contents of a file could not be had. -/
inductive ReadError where
  | notFound
  | isDirectory
  | notDirectory
  | nameTooLong
  | notText
  | other (message : String)
  deriving DecidableEq, Repr, Inhabited

def ReadError.message : ReadError → String
  | notFound => "No such file or directory (os error 2)"
  | isDirectory => "Is a directory (os error 21)"
  | notDirectory => "Not a directory (os error 20)"
  | nameTooLong => "File name too long (os error 36)"
  | notText => "stream did not contain valid UTF-8"
  | other message => message

/-- Why an import stopped. Lines count from 1. -/
inductive ImportError where
  | unreadable (e : ReadError)
  | malformed (line : Nat) (e : Table.LineError)
  | invalidStatement (line : Nat)
  deriving DecidableEq, Repr, Inhabited

namespace ImportError

def atLine (line : Nat) (text : String) : String := "line " ++ toString line ++ ": " ++ text

def message : ImportError → String
  | unreadable e => "I/O error: " ++ e.message
  | malformed line e => atLine line e.message
  | invalidStatement line => atLine line "invalid statement (empty subject or object)"

/-- The message of the error behind this one. -/
def source? : ImportError → Option String
  | unreadable e => some e.message
  | malformed _ _ | invalidStatement _ => none

end ImportError

namespace Store

/-- The loop of `import_str`, from line number `number` on, with `imported` statements before it. -/
def importLines (st : Store) (number imported : Nat) :
    List (List Char) → Update Store (Except ImportError Nat)
  | [] => { store := st, answer := .ok imported, log := [.imported imported] }
  | l :: ls =>
    match Table.readLine l with
    | .error e => { store := st, answer := .error (.malformed number e) }
    | .ok none => st.importLines (number + 1) imported ls
    | .ok (some s) =>
      let u := st.add s
      if u.answer = unassigned then
        { store := u.store, answer := .error (.invalidStatement number), log := u.log }
      else u.store.importLines (number + 1) (imported + 1) ls

/-- `import_str`. -/
def importText (st : Store) (text : String) : Update Store (Except ImportError Nat) :=
  st.importLines 1 0 (Text.lines text.toList)

/-- `import_file`, with what reading the file gave. -/
def importFile (st : Store) (contents : Except ReadError ByteArray) :
    Update Store (Except ImportError Nat) :=
  match contents with
  | .error e => { store := st, answer := .error (.unreadable e) }
  | .ok bytes =>
    match String.fromUTF8? bytes with
    | none => { store := st, answer := .error (.unreadable .notText) }
    | some text => st.importText text

end Store

end TripleStore
