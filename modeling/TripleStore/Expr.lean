import TripleStore.Projection

/-!
# Query expressions

A condition on a statement: comparisons, membership in a set, and their boolean
combinations. A set is given by its values or by a nested select.
-/

namespace TripleStore

/-- The right side of a comparison. A term is taken on the same statement. -/
inductive Scalar where
  | value (v : Value)
  | term (t : Term)
  deriving DecidableEq, Repr, Inhabited

inductive Expr where
  | everything
  | compare (t : Term) (op : CompareOp) (rhs : Scalar)
  | inValues (t : Term) (values : List Value)
  /-- The value of `t` is one that `projection` has on a match of `filter`. -/
  | inSelect (t projection : Term) (filter : Expr)
  | and (a b : Expr)
  | or (a b : Expr)
  | not (a : Expr)
  deriving DecidableEq, Repr, Inhabited

/-! ## Display -/

def Scalar.display : Scalar → String
  | value v => v.display
  | term t => t.display

namespace Expr

def displaySelect (projection : Term) (filter : String) : String :=
  "select(" ++ projection.display ++ ", " ++ filter ++ ")"

/-- `fmt` of an expression. The values of a set are counted, not shown. -/
def display : Expr → String
  | everything => "*"
  | compare t op rhs => t.display ++ " " ++ op.symbol ++ " " ++ rhs.display
  | inValues t values =>
    t.display ++ " in \x7b" ++ toString values.length ++ " values\x7d"
  | inSelect t projection filter =>
    t.display ++ " in " ++ displaySelect projection filter.display
  | and a b => "(" ++ a.display ++ " && " ++ b.display ++ ")"
  | or a b => "(" ++ a.display ++ " || " ++ b.display ++ ")"
  | not a => "!" ++ a.display

/-- How deep the combinations and nested selects go. -/
def depth : Expr → Nat
  | everything | compare _ _ _ | inValues _ _ => 0
  | inSelect _ _ filter => filter.depth + 1
  | and a b | or a b => max a.depth b.depth + 1
  | not a => a.depth + 1

/-- The parts that combine nothing. -/
def leaves : Expr → List Expr
  | inSelect _ _ filter => filter.leaves
  | and a b | or a b => a.leaves ++ b.leaves
  | not a => a.leaves
  | e => [e]

end Expr

/-! ## Building -/

/-- `ValueSet`, a set that a term is tested against. -/
inductive SetOperand where
  | values (vs : List Value)
  | select (projection : Term) (filter : Expr)
  deriving DecidableEq, Repr, Inhabited

inductive Operand where
  | scalar (rhs : Scalar)
  | set (set : SetOperand)
  deriving DecidableEq, Repr, Inhabited

namespace Term

def isIn (t : Term) : SetOperand → Expr
  | .values vs => .inValues t vs
  | .select projection filter => .inSelect t projection filter

def notIn (t : Term) (set : SetOperand) : Expr := .not (t.isIn set)

/-- `equals`. Equality with a set is membership. -/
def equals (t : Term) : Operand → Expr
  | .scalar rhs => .compare t .eq rhs
  | .set set => t.isIn set

def notEquals (t : Term) : Operand → Expr
  | .scalar rhs => .compare t .ne rhs
  | .set set => t.notIn set

def against (t : Term) (op : CompareOp) (v : Value) : Expr := .compare t op (.value v)

end Term

end TripleStore
