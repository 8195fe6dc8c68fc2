import TripleStore.Decimal

/-!
# Resources

What a statement talks about: a thing with a name, or another statement.
-/

namespace TripleStore

/-- `ResourceId`. An id below zero can stand in a reference, but no text is read as one with it. -/
inductive Resource where
  | name (text : String)
  | ref (id : Int)
  deriving DecidableEq, Repr, Inhabited

namespace Resource

def bracketed (inner : String) : String := "[" ++ inner ++ "]"

/-- `parse_statement_ref`. Only the canonical form counts: `[7]`, but not `[07]`. -/
def refOf? (text : String) : Option Nat :=
  match text.toList with
  | '[' :: rest => if rest.getLast? = some ']' then Decimal.index? rest.dropLast else none
  | _ => none

def text : Resource → String
  | name text => text
  | ref id => bracketed (toString id)

/-- `parse`, and `from` on a text that is lent. -/
def parse (text : String) : Resource :=
  match refOf? text with
  | some id => ref id
  | none => name text

/-- `from` on a text that is given away: a name keeps it. -/
def ofOwned (text : String) : Resource := (refOf? text).elim (name text) fun id => ref id

/-- `from` on an id. A negative one refers to nothing, so it is a name. -/
def ofId (id : Int) : Resource :=
  if id < 0 then name (bracketed (toString id)) else ref id

def isEmpty : Resource → Bool
  | name text => text.isEmpty
  | ref _ => false

def refId? : Resource → Option Int
  | name _ => none
  | ref id => some id

@[simp] theorem ofOwned_eq_parse (text : String) : ofOwned text = parse text := by
  unfold ofOwned parse
  cases refOf? text <;> rfl

end Resource

end TripleStore
