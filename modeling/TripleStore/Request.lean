import TripleStore.Select

/-!
# Requests

What a store is asked for. A request has its effects in an order: it logs events, and it may
put a store in the place of the old one. A log may refuse an event; then the request breaks
off there, and what it did before stays done.
-/

namespace TripleStore

variable {α β : Type}

/-- A request, with the type of what it is answered if nothing fails. -/
inductive Request : Type → Type 1 where
  | add (s : Statement) : Request Int
  | clear : Request Unit
  | count : Request Nat
  | select {β : Type} (p : Projection β) (e : Expr) : Request (List β)
  /-- Any look at the store. -/
  | read {α : Type} (f : Store → α) : Request α

/-- The request may change the store. -/
def Request.isWrite : Request α → Bool
  | .add _ | .clear => true
  | .count | .select _ _ | .read _ => false

/-! ## Effects -/

inductive Effect where
  | log (e : Event)
  | put (st : Store)

/-- The log refused an event, and the request that logged it broke off. -/
structure LogFailure where
  deriving DecidableEq, Repr, Inhabited

def LogFailure.message (_ : LogFailure) : String := "log sink failed"

namespace Store

/-- One effect after the other, up to the first event that the log refuses. -/
def perform (accepts : Event → Bool) (st : Store) :
    List Effect → Update Store (Except LogFailure Unit)
  | [] => { store := st, answer := .ok () }
  | .put st' :: rest => perform accepts st' rest
  | .log e :: rest =>
    if accepts e then
      let u := perform accepts st rest
      { u with log := e :: u.log }
    else { store := st, answer := .error {} }

/-- A rejection and a clearing are logged before anything else happens. -/
def effects (st : Store) : Request α → List Effect
  | .add s => if s.isValid then [.put (st.add s).store] else [.log (.rejected s)]
  | .clear => [.log (.clearing st.size), .put empty]
  | .count => []
  | .select p e => (st.select p e).log.map .log
  | .read _ => []

/-! ## Answers -/

/-- The request with a log that takes every event. Only a select can fail. -/
def ask (st : Store) : Request α → Update Store (Except QueryError α)
  | .add s => (st.add s).map .ok
  | .clear => st.clear.map .ok
  | .count => { store := st, answer := .ok st.size }
  | .select p e =>
    let result := st.select p e
    { store := st, answer := result.outcome, log := result.log }
  | .read f => { store := st, answer := .ok (f st) }

/-- The request with a log that may refuse events. -/
def askLogging (accepts : Event → Bool) (st : Store) (r : Request α) :
    Update Store (Except LogFailure (Except QueryError α)) :=
  (st.perform accepts (st.effects r)).map fun done => done.map fun _ => (st.ask r).answer

end Store

end TripleStore
