import TripleStore.Request

/-!
# Shared stores

A store behind a lock, reached through any number of handles. A handle is no store but the
place of a lock, so handles that are made from one another lead to the same store. A writer that
breaks off while it holds the lock poisons it, and from then on every request fails.
-/

namespace TripleStore

inductive SharedError where
  | lockPoisoned
  | query (e : QueryError)
  deriving DecidableEq, Repr, Inhabited

namespace SharedError

def message : SharedError → String
  | lockPoisoned => "database lock poisoned"
  | query e => "query error: " ++ e.message

/-- The message of the error behind this one. -/
def source? : SharedError → Option String
  | lockPoisoned => none
  | query e => some e.message

end SharedError

variable {α β : Type}

/-! ## Under the lock (`add_statement`, `clear`, `statement_count`, `select`, `read`) -/

structure Lock where
  store : Store
  poisoned : Bool := false
  deriving DecidableEq, Repr, Inhabited

namespace Lock

def read (l : Lock) (f : Store → α) : Except SharedError α :=
  if l.poisoned then .error .lockPoisoned else .ok (f l.store)

def write (l : Lock) (f : Store → Update Store α) : Update Lock (Except SharedError α) :=
  if l.poisoned then { store := l, answer := .error .lockPoisoned }
  else
    let u := f l.store
    { store := { l with store := u.store }, answer := .ok u.answer, log := u.log }

def add (l : Lock) (s : Statement) : Update Lock (Except SharedError Int) :=
  l.write fun st => st.add s

def clear (l : Lock) : Update Lock (Except SharedError Unit) := l.write Store.clear

def count (l : Lock) : Except SharedError Nat := l.read Store.size

def select (l : Lock) (p : Projection β) (e : Expr) : Traced SharedError (List β) :=
  match l.read fun st => st.select p e with
  | .error err => .lift (.error err)
  | .ok result => result.mapError .query

/-- The request with a log that takes every event. -/
def ask (l : Lock) : Request α → Update Lock (Except SharedError α)
  | .add s => l.add s
  | .clear => l.clear
  | .count => { store := l, answer := l.count }
  | .select p e =>
    let result := l.select p e
    { store := l, answer := result.outcome, log := result.log }
  | .read f => { store := l, answer := l.read f }

/--
The request with a log that may refuse events. A request that is turned away logs nothing. One
that breaks off leaves the store as it is then, and poisons the lock if it is a writer.
-/
def askLogging (accepts : Event → Bool) (l : Lock) (r : Request α) :
    Update Lock (Except LogFailure (Except SharedError α)) :=
  if l.poisoned then (l.ask r).map .ok
  else
    let u := l.store.askLogging accepts r
    match u.answer with
    | .ok _ => (l.ask r).map .ok
    | .error failure =>
      { store := { store := u.store, poisoned := r.isWrite }, answer := .error failure,
        log := u.log }

end Lock

/-! ## Through handles -/

/-- `SharedResourceDatabase`: for each handle, the place of the lock that it leads to. -/
structure SharedStore where
  locks : List Lock
  handles : List Nat
  deriving DecidableEq, Repr, Inhabited

namespace SharedStore

/-- One store, with one handle to it. -/
def ofStore (st : Store) : SharedStore := { locks := [{ store := st }], handles := [0] }

/-- `share`: a new handle that leads where the given one leads. -/
def share (sh : SharedStore) (handle : Nat) : Option SharedStore := do
  let place ← sh.handles[handle]?
  return { sh with handles := sh.handles ++ [place] }

/-- A request through a handle, if there is the handle. -/
def ask (accepts : Event → Bool) (sh : SharedStore) (handle : Nat) (r : Request α) :
    Option (Update SharedStore (Except LogFailure (Except SharedError α))) := do
  let place ← sh.handles[handle]?
  let lock ← sh.locks[place]?
  let u := lock.askLogging accepts r
  return { u with store := { sh with locks := sh.locks.set place u.store } }

end SharedStore

end TripleStore
