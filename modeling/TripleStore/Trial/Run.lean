import TripleStore.Audit
import TripleStore.Trial.Sampler

/-!
# Trials

A trial fills an empty store with drawn statements and audits it on the way: each
insertion, and every so many insertions the whole store with drawn expressions.
-/

namespace TripleStore.Trial

/-- `SimulatorConfig`, less the seed. -/
structure Config where
  sampler : Sampler := {}
  /-- The whole store is audited after this many insertions. Zero counts as one. -/
  interval : Nat := 1
  deriving Repr

/-- How far a trial has come. -/
structure Progress where
  store : Store := .empty
  audit : Audit := {}
  stored : Nat := 0
  rejected : Nat := 0
  queryChecks : Nat := 0

namespace Progress

def operations (p : Progress) : Nat := p.stored + p.rejected

def passed (p : Progress) : Bool := p.audit.violations.isEmpty

def insert (p : Progress) (index : Nat) (s : Statement) : Progress :=
  let u := p.store.add s
  { p with
    store := u.store
    audit := p.audit.record index (u.store.checkInsert s.isValid p.store.size u.answer)
    stored := if s.isValid then p.stored + 1 else p.stored
    rejected := if s.isValid then p.rejected else p.rejected + 1 }

def check (p : Progress) (index : Nat) (name : String) (a b : Expr) : Progress :=
  { p with
    audit := ((p.audit.record index p.store.checkDenseIds).record index
      (p.store.checkPredicateScan name)).record index (p.store.checkAlgebra a b)
    queryChecks := p.queryChecks + 1 }

end Progress

namespace Config

variable (c : Config)

/-- One turn of the loop of `run`. -/
def step (p : Progress) (index : Nat) : Drawn Progress := do
  let p := p.insert index (← c.sampler.statement p.store.nextId)
  if (index + 1) % max c.interval 1 = 0 then
    let name ← c.sampler.predicateName
    let a ← c.sampler.expr
    let b ← c.sampler.expr
    return p.check index name a b
  else return p

/-- `run`, with an audit that may have violations already. -/
def run (operations : Nat) (audit : Audit) : Drawn Progress :=
  (List.range operations).foldlM c.step { audit }

end Config

end TripleStore.Trial
