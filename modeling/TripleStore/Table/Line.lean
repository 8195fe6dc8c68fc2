import TripleStore.Statement
import TripleStore.Text.Blank

/-!
# One line of a table

Four fields with tabs between them: the kind, the subject, the predicate and the
object. Blank lines and lines that start with `#` are skipped. The kind may have
blanks around it; the other fields are taken as they stand.
-/

namespace TripleStore.Table

open Text

inductive LineError where
  | fieldCount (count : Nat)
  | unknownKind (kind : String)
  deriving DecidableEq, Repr, Inhabited

def LineError.message : LineError → String
  | fieldCount count => "expected 4 tab-separated fields, got " ++ toString count
  | unknownKind kind => "unknown statement kind '" ++ kind ++ "'"

def isLineEnd (c : Char) : Bool := c == '\r' || c == '\n'

def isSkipped (cs : List Char) : Bool :=
  match cs.dropWhile isBlank with
  | [] => true
  | c :: _ => c == '#'

def kindOf? (text : String) : Option ObjectKind :=
  if text = "literal" then some .literal
  else if text = "resource" then some .resource
  else none

def ofFields : List (List Char) → Except LineError Statement
  | [kind, subject, predicate, object] =>
    let kindText := String.ofList (trim kind)
    match kindOf? kindText with
    | some k =>
      .ok (.new (.parse (.ofList subject)) (.ofList predicate) (.ofList object) k)
    | none => .error (.unknownKind kindText)
  | fields => .error (.fieldCount fields.length)

/-- `parse_line`. A skipped line gives no statement. -/
def readLine (line : List Char) : Except LineError (Option Statement) :=
  let cs := dropTrailing isLineEnd line
  if isSkipped cs then .ok none else (ofFields (cs.splitOn '\t')).map some

end TripleStore.Table
