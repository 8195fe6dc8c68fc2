import TripleStore.Value

/-!
# Terms

A term picks a part of a statement or converts what another term has. On a
statement it has a value, or one cause why it has none: the innermost term that
fails gives the cause.
-/

namespace TripleStore

inductive Term where
  | subject
  | predicate
  | object
  | statementId
  | objectKind
  /-- `attribute`: the object of a statement with this predicate. -/
  | attributeOf (name : String)
  /-- The text of the inner term, read as an integer. -/
  | parseInt (inner : Term)
  /-- The id that the text of the inner term refers to. -/
  | reifiedId (inner : Term)
  deriving DecidableEq, Repr, Inhabited

/-- Why a term has no value on a statement. -/
inductive TermError where
  | missingAttribute (name : String)
  | conversion (input target : String)
  | typeMismatch (expected found : String)
  deriving DecidableEq, Repr, Inhabited

namespace TermError

def message : TermError → String
  | missingAttribute name => "predicate is not attribute '" ++ name ++ "'"
  | conversion input target => "cannot convert '" ++ input ++ "' to " ++ target
  | typeMismatch expected found => "expected " ++ expected ++ " value, found " ++ found

end TermError

/-! ## Conversions -/

/-- `NOT_REIFIED`, which a text that is no reference has. It is the id of no stored statement. -/
def notReified : Int := -1

namespace Value

/-- An integer stays as it is. -/
def readInt : Value → Except TermError Value
  | text s =>
    match Decimal.int? s.toList with
    | some n => .ok (int n)
    | none => .error (.conversion s "integer")
  | int n => .ok (int n)
  | kind k => .error (.typeMismatch "text" (kind k).typeName)

def readRef : Value → Except TermError Value
  | text s =>
    match Resource.refOf? s with
    | some id => .ok (int id)
    | none => .ok (int notReified)
  | v => .error (.typeMismatch "text" v.typeName)

end Value

/-! ## Terms on a statement -/

namespace Term

def display : Term → String
  | subject => "subject"
  | predicate => "predicate"
  | object => "object"
  | statementId => "statement_id"
  | objectKind => "resource_type"
  | attributeOf name => "attribute(" ++ name ++ ")"
  | parseInt inner => "parse_int(" ++ inner.display ++ ")"
  | reifiedId inner => "reified_id(" ++ inner.display ++ ")"

/-- `evaluate_term`. -/
def eval : Term → Statement → Except TermError Value
  | subject, s => .ok (.text s.subjectText)
  | predicate, s => .ok (.text s.predicate)
  | object, s => .ok (.text s.objectText)
  | statementId, s => .ok (.int s.id)
  | objectKind, s => .ok (.kind s.kind)
  | attributeOf name, s =>
    if s.predicate = name then .ok (.text s.objectText) else .error (.missingAttribute name)
  | parseInt inner, s => inner.eval s >>= Value.readInt
  | reifiedId inner, s => inner.eval s >>= Value.readRef

/-- The value, with the cause forgotten if there is none. -/
def value? (t : Term) (s : Statement) : Option Value := (t.eval s).toOption

end Term

end TripleStore
