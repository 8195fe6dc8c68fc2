import TripleStore.Statement

/-!
# Values

What a term has on a statement. Values of different types are never equal and have
no order; object kinds have no order either. For the listing of sets there is a
total order beside it: texts, then integers, then kinds.
-/

namespace TripleStore

inductive Value where
  | text (s : String)
  | int (n : Int)
  | kind (k : ObjectKind)
  deriving DecidableEq, Repr, Inhabited

/-! ## Comparison operators -/

inductive CompareOp where
  | eq | ne | lt | le | gt | ge
  deriving DecidableEq, Repr, Inhabited

namespace CompareOp

def symbol : CompareOp → String
  | eq => "=="
  | ne => "!="
  | lt => "<"
  | le => "<="
  | gt => ">"
  | ge => ">="

def accepts : CompareOp → Ordering → Bool
  | eq, o => o.isEq
  | ne, o => o.isNe
  | lt, o => o.isLT
  | le, o => o.isLE
  | gt, o => o.isGT
  | ge, o => o.isGE

end CompareOp

namespace Value

def typeName : Value → String
  | text _ => "text"
  | int _ => "integer"
  | kind _ => "kind"

def text? : Value → Option String
  | text s => some s
  | _ => none

def int? : Value → Option Int
  | int n => some n
  | _ => none

def kind? : Value → Option ObjectKind
  | kind k => some k
  | _ => none

/-- A text in quotes, with nothing in it escaped. -/
def display : Value → String
  | text s => "\"" ++ s ++ "\""
  | int n => toString n
  | kind k => k.text

/-! ## Comparing -/

/-- `order`: texts go by code points, integers by size. Nothing else has an order. -/
def order? : Value → Value → Option Ordering
  | text a, text b => some (compare a b)
  | int a, int b => some (compare a b)
  | _, _ => none

/-! ## The listing order -/

def kindRank : ObjectKind → Nat
  | .invalid => 0
  | .literal => 1
  | .resource => 2

/-- Texts, then integers, then kinds. -/
def listed : Value → Value → Ordering
  | text a, text b => compare a b
  | text _, _ => .lt
  | int _, text _ => .gt
  | int a, int b => compare a b
  | int _, kind _ => .lt
  | kind a, kind b => compare (kindRank a) (kindRank b)
  | kind _, _ => .gt

theorem kindRank_injective {a b : ObjectKind} (h : kindRank a = kindRank b) : a = b := by
  cases a <;> cases b <;> simp_all [kindRank]

instance : Std.OrientedCmp listed where
  eq_swap {a b} := by
    cases a <;> cases b <;> simp only [listed, Ordering.swap_lt, Ordering.swap_gt] <;>
      exact Std.OrientedOrd.eq_swap

instance : Std.TransCmp listed where
  isLE_trans {a b c} := by
    cases a <;> cases b <;> cases c <;> simp [listed] <;> exact Std.TransCmp.isLE_trans

instance : Std.LawfulEqCmp listed where
  eq_of_compare {a b} := by
    cases a <;> cases b <;> simp [listed]
    exact kindRank_injective

end Value

/-- `compare`. Equality is of type and content; an ordering needs two sides that have an order. -/
def CompareOp.holds (op : CompareOp) (a b : Value) : Bool :=
  match op with
  | .eq => a = b
  | .ne => a ≠ b
  | op => (a.order? b).any op.accepts

end TripleStore
