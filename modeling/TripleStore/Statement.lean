import TripleStore.Resource

/-!
# Statements

A statement says of a subject what it has as an object under a predicate. It has
an id once it is stored.
-/

namespace TripleStore

/-- `UNASSIGNED_ID`, the id of a statement that is not stored. -/
def unassigned : Int := -1

/-! ## Objects -/

inductive ObjectKind where
  | invalid
  | literal
  | resource
  deriving DecidableEq, Repr, Inhabited

def ObjectKind.text : ObjectKind → String
  | invalid => "invalid"
  | literal => "literal"
  | resource => "resource"

/-- Plain text, or a resource. -/
inductive Object where
  | literal (text : String)
  | resource (target : Resource)
  deriving DecidableEq, Repr, Inhabited

namespace Object

def kind : Object → ObjectKind
  | literal _ => .literal
  | resource _ => .resource

def text : Object → String
  | literal text => text
  | resource target => target.text

def isEmpty : Object → Bool
  | literal text => text.isEmpty
  | resource target => target.isEmpty

/-- The object in `new`. The invalid kind has none, whatever the text. -/
def ofText (text : String) : ObjectKind → Option Object
  | .invalid => none
  | .literal => some (literal text)
  | .resource => some (resource (Resource.ofOwned text))

end Object

/-! ## Statements -/

structure Statement where
  subject : Resource
  predicate : String
  object : Option Object
  id : Int := unassigned
  deriving DecidableEq, Repr, Inhabited

namespace Statement

/-- A statement that is not stored. -/
def new (subject : Resource) (predicate object : String) (kind : ObjectKind) : Statement :=
  { subject, predicate, object := Object.ofText object kind }

def literal (subject : Resource) (predicate object : String) : Statement :=
  new subject predicate object .literal

def resource (subject : Resource) (predicate object : String) : Statement :=
  new subject predicate object .resource

/-- `invalid`, and `default` too. -/
def invalid : Statement := { subject := .name "", predicate := "", object := none }

def withId (s : Statement) (id : Int) : Statement := { s with id }

/-- `is_valid`: the subject and the object have text. The predicate may be empty. -/
def isValid (s : Statement) : Bool :=
  !s.subject.isEmpty && s.object.any fun o => !o.isEmpty

def subjectText (s : Statement) : String := s.subject.text

def objectText (s : Statement) : String := (s.object.map Object.text).getD ""

def kind (s : Statement) : ObjectKind := (s.object.map Object.kind).getD .invalid

/-- The object as it stands in a line: a literal in quotes, a resource in angle brackets. -/
def objectMark (s : Statement) : String :=
  match s.object with
  | some (.literal text) => "\"" ++ text ++ "\""
  | some (.resource target) => "<" ++ target.text ++ ">"
  | none => "(invalid)"

/-- `fmt` of a statement. Nothing in it is escaped. -/
def line (s : Statement) : String :=
  toString s.id ++ ": " ++ s.subjectText ++ " " ++ s.predicate ++ " " ++ s.objectMark

@[simp] theorem withId_subject (s : Statement) (id : Int) : (s.withId id).subject = s.subject := rfl

@[simp] theorem withId_predicate (s : Statement) (id : Int) :
    (s.withId id).predicate = s.predicate := rfl

@[simp] theorem withId_object (s : Statement) (id : Int) : (s.withId id).object = s.object := rfl

@[simp] theorem withId_id (s : Statement) (id : Int) : (s.withId id).id = id := rfl

@[simp] theorem isValid_withId (s : Statement) (id : Int) : (s.withId id).isValid = s.isValid := rfl

end Statement

end TripleStore
