import TripleStore.Event

/-!
# The store

Statements in the order in which they came. The id of a stored statement is its
place, so ids start at 0 and leave no gap. Only valid statements are stored.
-/

namespace TripleStore

/-- A store after a step, with the answer of the step and the events it logged. -/
structure Update (σ α : Type) where
  store : σ
  answer : α
  log : List Event := []

def Update.map {σ α β : Type} (f : α → β) (u : Update σ α) : Update σ β :=
  { store := u.store, answer := f u.answer, log := u.log }

/-- `ResourceDatabase`. -/
structure Store where
  statements : Array Statement := #[]
  deriving DecidableEq, Repr, Inhabited

namespace Store

def empty : Store := {}

/-! ## Looking -/

def toList (st : Store) : List Statement := st.statements.toList

def size (st : Store) : Nat := st.statements.size

def isEmpty (st : Store) : Bool := st.statements.isEmpty

def nextId (st : Store) : Int := st.size

/-- `statement`. -/
def get? (st : Store) (id : Int) : Option Statement :=
  if id < 0 then none else st.statements[id.toNat]?

/-! ## Changing -/

/-- `add_statement`. A valid statement gets the next id, whatever id it had. -/
def add (st : Store) (s : Statement) : Update Store Int :=
  if s.isValid then
    { store := ⟨st.statements.push (s.withId st.nextId)⟩, answer := st.nextId }
  else
    { store := st, answer := unassigned, log := [.rejected s] }

def clear (st : Store) : Update Store Unit :=
  { store := empty, answer := (), log := [.clearing st.size] }

@[simp] theorem toList_empty : empty.toList = [] := rfl

@[simp] theorem length_toList (st : Store) : st.toList.length = st.size := by
  simp [toList, size]

theorem toList_add (st : Store) (s : Statement) :
    (st.add s).store.toList =
      st.toList ++ if s.isValid then [s.withId st.nextId] else [] := by
  unfold add
  split <;> simp [toList]

theorem get?_eq_getElem? (st : Store) (n : Nat) : st.get? n = st.toList[n]? := by
  have h : ¬ (n : Int) < 0 := by omega
  simp [get?, toList, h]

/-! ## Dumps -/

def dumpLines (st : Store) : List String := st.toList.map Statement.line

/-- `write_dump`. -/
def dumpText (st : Store) : String := String.join (st.dumpLines.map fun l => l ++ "\n")

/-- `dump`. -/
def dumpEvents (st : Store) : List Event := .dumping st.size :: st.toList.map .dumped

end Store

end TripleStore
