import TripleStore.Expr
import TripleStore.Trial.Draws

/-!
# Drawn statements and expressions

Names come from small pools, so that drawn expressions find drawn statements.
-/

namespace TripleStore.Trial

/-- `StatementGenConfig`. -/
structure Sampler where
  /-- How often a statement is invalid. -/
  invalidRate : Rate := .num (1 / 10)
  /-- How often a statement is about a stored one, if there is one. -/
  reificationRate : Rate := .num (1 / 10)
  maxDepth : Nat := 3
  subjects : Nat := 6
  predicates : Nat := 4
  deriving Repr

namespace Sampler

variable (c : Sampler)

def predicateName : Drawn String := return "p" ++ toString (← below c.predicates)

def subjectName : Drawn String := return "s" ++ toString (← below c.subjects)

def digit : Drawn String := return toString (← below 10)

/-! ## Statements -/

/-- `invalid_statement`: no subject, no object text, or no object. -/
def invalidStatement : Drawn Statement := do
  match ← below 3 with
  | 0 => return .literal (.parse "") (← c.predicateName) "x"
  | 1 =>
    let subject ← c.subjectName
    return .literal (.ofOwned subject) (← c.predicateName) ""
  | _ =>
    let subject ← c.subjectName
    return .new (.ofOwned subject) (← c.predicateName) "x" .invalid

/-- A verdict on one of the stored statements. -/
def reifying (stored : Int) (predicate : String) : Drawn Statement := do
  let target ← below stored.toNat
  let verdict ← coin
  return .literal (.ofId target) predicate (if verdict then "true" else "false")

def plainStatement (predicate : String) : Drawn Statement := do
  let subject ← c.subjectName
  if ← coin then return .literal (.ofOwned subject) predicate (← digit)
  else return .resource (.ofOwned subject) predicate (← c.subjectName)

/-- `statement`, for a store with `stored` statements. -/
def statement (stored : Int) : Drawn Statement := do
  if ← chance c.invalidRate then c.invalidStatement
  else
    let predicate ← c.predicateName
    if 0 < stored then
      if ← chance c.reificationRate then reifying stored predicate
      else c.plainStatement predicate
    else c.plainStatement predicate

/-! ## Expressions -/

def leaf : Drawn Expr := do
  match ← below 9 with
  | 0 => return .everything
  | 1 => return Term.predicate.against .eq (.text (← c.predicateName))
  | 2 => return Term.subject.against .eq (.text (← c.subjectName))
  | 3 => return Term.object.against .eq (.text (← c.subjectName))
  | 4 => return (Term.parseInt .object).against .gt (.int (← below 10))
  | 5 =>
    let name ← c.predicateName
    return (Term.attributeOf name).against .ne (.text (← digit))
  | 6 => return Term.objectKind.against .eq (.kind .resource)
  | 7 => return Term.statementId.against .lt (.int (← below 50))
  | _ => return (Term.reifiedId .subject).against .ge (.int 0)

/-- `expr_at`. -/
def exprOfDepth : Nat → Drawn Expr
  | 0 => c.leaf
  | depth + 1 => do
    if ← chance (.num (2 / 5)) then c.leaf
    else
      match ← below 4 with
      | 0 => return .and (← exprOfDepth depth) (← exprOfDepth depth)
      | 1 => return .or (← exprOfDepth depth) (← exprOfDepth depth)
      | 2 => return .not (← exprOfDepth depth)
      | _ => return .inSelect .subject .subject (← exprOfDepth depth)

def expr : Drawn Expr := c.exprOfDepth c.maxDepth

end Sampler

end TripleStore.Trial
