import TripleStore.Resolved
import TripleStore.Store
import TripleStore.Traced

/-!
# Selects

A select resolves its expression, scans the store once in the order of the ids, and
projects every match. Both sides of a combination are resolved, the left one first
and a nested select's own filter before it, even if no statement ever asks for the
set.
-/

namespace TripleStore.Store

variable {β : Type}

/-- The statements that a resolved expression accepts. -/
def accepted (st : Store) (r : Resolved) : List Statement := st.toList.filter r.accepts

/-- The loop of `execute`. The first projection that fails ends it. -/
def rows (st : Store) (p : Projection β) (r : Resolved) : Except QueryError (List β) :=
  (st.accepted r).mapM p

/-- `execute` of a resolved expression. The event is logged only if no projection fails. -/
def scan (st : Store) (p : Projection β) (filter : Expr) (r : Resolved) :
    Traced QueryError (List β) := do
  let results ← .lift (st.rows p r)
  .emit (.selected filter results.length st.size)
  return results

/-- `resolve`, with `materialize` for a nested select. -/
def resolve (st : Store) : Expr → Traced QueryError Resolved
  | .everything => pure .everything
  | .compare t op rhs => pure (.compare t op rhs)
  | .inValues t values => pure (.memberOf t (.of values))
  | .inSelect t projection filter => do
    let r ← st.resolve filter
    let values ← st.scan projection.project filter r
    .emit (.resolved projection filter values.length)
    return .memberOf t (.of values)
  | .and a b => do return .and (← st.resolve a) (← st.resolve b)
  | .or a b => do return .or (← st.resolve a) (← st.resolve b)
  | .not a => do return .not (← st.resolve a)

/-- `execute`. -/
def select (st : Store) (p : Projection β) (e : Expr) : Traced QueryError (List β) := do
  st.scan p e (← st.resolve e)

/-- A nested select is a select of its own, and then a set. -/
theorem resolve_inSelect (st : Store) (t projection : Term) (filter : Expr) :
    st.resolve (.inSelect t projection filter) = do
      let values ← st.select projection.project filter
      Traced.emit (.resolved projection filter values.length)
      return .memberOf t (.of values) := by
  simp only [resolve, select, bind_assoc]

/-- The matches themselves. Nothing is projected, so the scan logs nothing. -/
def matching (st : Store) (e : Expr) : Traced QueryError (List Statement) := do
  return st.accepted (← st.resolve e)

/-- How many statements match. -/
def count (st : Store) (e : Expr) : Traced QueryError Nat := do
  return st.toList.countP (← st.resolve e).accepts

end TripleStore.Store
