import TripleStore.Select

/-!
# Audits

Checks of a store through its own selects: its ids are its places, a select finds
what a scan finds, and the boolean combinations are the set operations on what their
sides select. A check gives its findings; an audit collects them.
-/

namespace TripleStore

/-- What a check found wrong. -/
inductive Finding where
  | countChanged (expected found : Nat)
  | wrongId (expected got : Int)
  | misplaced (position : Nat) (s : Statement)
  | invalidStored (s : Statement)
  | scanDiffers (predicate : String) (expected found : List Int)
  | notAscending (e : Expr) (ids : List Int)
  | wrongCombination (e : Expr) (expected found : List Int)
  | selectFailed (e : Expr) (error : QueryError)
  /-- Found by somebody else. -/
  | reported (description context : String)
  deriving DecidableEq, Repr, Inhabited

namespace Finding

def description : Finding → String
  | countChanged _ _ => "Statement count changed unexpectedly"
  | wrongId _ _ => "add_statement returned the wrong id"
  | misplaced _ _ => "Statement id does not match its position"
  | invalidStored _ => "Invalid statement stored"
  | scanDiffers _ _ _ => "Predicate select disagrees with scan"
  | notAscending _ _ => "Results not in ascending id order"
  | wrongCombination _ _ _ => "Boolean combination selected the wrong statements"
  | selectFailed _ _ => "Select failed"
  | reported description _ => description

def idList (ids : List Int) : String := "[" ++ ", ".intercalate (ids.map toString) ++ "]"

def idsDiffer (expected found : List Int) : String :=
  "expected " ++ idList expected ++ ", found " ++ idList found

def context : Finding → String
  | countChanged expected found => "expected " ++ toString expected ++ ", found " ++ toString found
  | wrongId expected got => "expected " ++ toString expected ++ ", got " ++ toString got
  | misplaced position s => "position " ++ toString position ++ " holds " ++ s.line
  | invalidStored s => s.line
  | scanDiffers predicate expected found =>
    "predicate " ++ predicate ++ ": " ++ idsDiffer expected found
  | notAscending e ids => e.display ++ ": " ++ idList ids
  | wrongCombination e expected found => e.display ++ ": " ++ idsDiffer expected found
  | selectFailed e error => e.display ++ ": " ++ error.message
  | reported _ context => context

end Finding

/-! ## Checks -/

namespace Store

/-- `ids`. A select that fails is a finding. -/
def idsOf (st : Store) (e : Expr) : Except Finding (List Int) :=
  (st.select .ids e).outcome.mapError (.selectFailed e)

/-- `check_insert`, after an addition to `before` statements that was answered by `returned`. -/
def checkInsert (st : Store) (valid : Bool) (before : Nat) (returned : Int) : List Finding :=
  let count := if valid then before + 1 else before
  -- Ids are asked for up to the largest one, however many statements there were.
  let id : Int := if valid then min before Decimal.maxInt else unassigned
  (if st.size = count then [] else [.countChanged count st.size]) ++
    if returned = id then [] else [.wrongId id returned]

def checkPlace (s : Statement) (position : Nat) : List Finding :=
  (if s.id = position then [] else [.misplaced position s]) ++
    if s.isValid then [] else [.invalidStored s]

/-- `check_dense_ids`. -/
def checkDenseIds (st : Store) : List Finding :=
  st.toList.zipIdx.flatMap fun p => checkPlace p.1 p.2

/-- `check_predicate_scan`. -/
def checkPredicateScan (st : Store) (name : String) : List Finding :=
  let expected := (st.toList.filter fun s => s.predicate = name).map Statement.id
  match st.idsOf (Term.predicate.against .eq (.text name)) with
  | .error finding => [finding]
  | .ok found => if found = expected then [] else [.scanDiffers name expected found]

/-- `expect_ids`. -/
def checkIds (st : Store) (e : Expr) (expected : List Int) : List Finding :=
  match st.idsOf e with
  | .error finding => [finding]
  | .ok found => if found = expected then [] else [.wrongCombination e expected found]

def isAscending (ids : List Int) : Bool := (ids.zip ids.tail).all fun p => p.1 < p.2

def checkCombinations (st : Store) (a b : Expr) (all left right : List Int) : List Finding :=
  let leftSet := Std.ExtTreeSet.ofList left
  let rightSet := Std.ExtTreeSet.ofList right
  st.checkIds (.not a) (all.filter fun id => !leftSet.contains id) ++
    st.checkIds (.and a b) (leftSet.toList.filter rightSet.contains) ++
    st.checkIds (.or a b) (Std.ExtTreeSet.ofList (left ++ right)).toList

/-- `check_algebra`. The first select that fails is the only finding. -/
def checkAlgebra (st : Store) (a b : Expr) : List Finding :=
  let found : Except Finding (List Finding) := do
    let all ← st.idsOf .everything
    let left ← st.idsOf a
    let right ← st.idsOf b
    return (if isAscending left then [] else [.notAscending a left]) ++
      st.checkCombinations a b all left right
  match found with
  | .ok findings => findings
  | .error finding => [finding]

end Store

/-! ## Collecting -/

/-- A finding, and the index of the operation after which it was found. -/
structure Violation where
  operation : Nat
  finding : Finding
  deriving DecidableEq, Repr, Inhabited

/-- `InvariantChecker`. -/
structure Audit where
  violations : List Violation := []
  deriving DecidableEq, Repr, Inhabited

namespace Audit

def record (a : Audit) (operation : Nat) (findings : List Finding) : Audit :=
  { violations := a.violations ++ findings.map fun finding => { operation, finding } }

def clear (_ : Audit) : Audit := {}

def hasViolations (a : Audit) : Bool := !a.violations.isEmpty

end Audit

end TripleStore
