import TripleStore.Expr
import TripleStore.Value.Set

/-!
# Resolved expressions

An expression whose sets are all made. It can be tried on any statement without
looking at a store. A term with no value makes its comparison or membership false.
-/

namespace TripleStore

inductive Resolved where
  | everything
  | compare (t : Term) (op : CompareOp) (rhs : Scalar)
  | memberOf (t : Term) (set : ValueSet)
  | and (a b : Resolved)
  | or (a b : Resolved)
  | not (a : Resolved)

def Scalar.value? : Scalar → Statement → Option Value
  | value v, _ => some v
  | term t, s => t.value? s

namespace Resolved

/-- `matches`. -/
def accepts : Resolved → Statement → Bool
  | everything, _ => true
  | compare t op rhs, s =>
    match t.value? s, rhs.value? s with
    | some a, some b => op.holds a b
    | _, _ => false
  | memberOf t set, s => (t.value? s).any set.contains
  | and a b, s => a.accepts s && b.accepts s
  | or a b, s => a.accepts s || b.accepts s
  | not a, s => !a.accepts s

/-- The expression that lists the values of every set. -/
def toExpr : Resolved → Expr
  | everything => .everything
  | compare t op rhs => .compare t op rhs
  | memberOf t set => .inValues t set.toList
  | and a b => .and a.toExpr b.toExpr
  | or a b => .or a.toExpr b.toExpr
  | not a => .not a.toExpr

end Resolved

end TripleStore
