import TripleStore.Term

/-!
# Projections

What a select makes of each match. A projection that fails on a statement ends the
select with an error that names the statement.
-/

namespace TripleStore

/-- Why a projection failed, and on which statement. -/
structure QueryError where
  statement : Int
  cause : TermError
  deriving DecidableEq, Repr, Inhabited

def QueryError.message (e : QueryError) : String :=
  "statement " ++ toString e.statement ++ ": " ++ e.cause.message

abbrev Projection (β : Type) := Statement → Except QueryError β

/-- The types that a value can be taken as, with `from_value`. -/
class FromValue (β : Type) where
  typeName : String
  ofValue? : Value → Option β

instance : FromValue Value := ⟨"any", some⟩

instance : FromValue String := ⟨"text", Value.text?⟩

instance : FromValue Int := ⟨"integer", Value.int?⟩

instance : FromValue ObjectKind := ⟨"kind", Value.kind?⟩

namespace Term

/-- `project` of a term. -/
def project (t : Term) : Projection Value := fun s =>
  (t.eval s).mapError fun cause => { statement := s.id, cause }

/-- `project` of `Typed`: the value has to be of the type. -/
def typed (β : Type) [FromValue β] (t : Term) : Projection β := fun s => do
  let v ← t.project s
  match FromValue.ofValue? v with
  | some x => .ok x
  | none =>
    .error { statement := s.id, cause := .typeMismatch (FromValue.typeName β) v.typeName }

end Term

namespace Projection

/-- `WholeStatement`. -/
def wholeStatement : Projection Statement := .ok

/-- `statement_id().as_int()`. -/
def ids : Projection Int := Term.statementId.typed Int

end Projection

end TripleStore
