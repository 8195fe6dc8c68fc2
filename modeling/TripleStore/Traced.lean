import TripleStore.Event

/-!
# Traced questions

The outcome of a question together with the events on the way to it. A question
that fails keeps what was logged before the failure.
-/

namespace TripleStore

structure Traced (ε α : Type) where
  outcome : Except ε α
  log : List Event := []

namespace Traced

variable {ε α β : Type}

def bind (x : Traced ε α) (f : α → Traced ε β) : Traced ε β :=
  match x.outcome with
  | .ok a => { outcome := (f a).outcome, log := x.log ++ (f a).log }
  | .error e => { outcome := .error e, log := x.log }

instance : Monad (Traced ε) where
  pure a := { outcome := .ok a }
  bind := bind

/-- An outcome with nothing logged. -/
def lift (outcome : Except ε α) : Traced ε α := { outcome }

def emit (e : Event) : Traced ε Unit := { outcome := .ok (), log := [e] }

def mapError {ε' : Type} (f : ε → ε') (x : Traced ε α) : Traced ε' α :=
  { outcome := x.outcome.mapError f, log := x.log }

/-! ## Outcome and log of each step -/

@[simp] theorem outcome_pure (a : α) : (pure a : Traced ε α).outcome = .ok a := rfl

@[simp] theorem log_pure (a : α) : (pure a : Traced ε α).log = [] := rfl

@[simp] theorem outcome_lift (x : Except ε α) : (lift x).outcome = x := rfl

@[simp] theorem log_lift (x : Except ε α) : (lift x).log = [] := rfl

@[simp] theorem outcome_emit (e : Event) : (emit e : Traced ε Unit).outcome = .ok () := rfl

@[simp] theorem log_emit (e : Event) : (emit e : Traced ε Unit).log = [e] := rfl

theorem bind_of_ok {x : Traced ε α} {a : α} (h : x.outcome = .ok a) (f : α → Traced ε β) :
    x >>= f = { outcome := (f a).outcome, log := x.log ++ (f a).log } := by
  simp [Bind.bind, bind, h]

theorem bind_of_error {x : Traced ε α} {e : ε} (h : x.outcome = .error e)
    (f : α → Traced ε β) : x >>= f = { outcome := .error e, log := x.log } := by
  simp [Bind.bind, bind, h]

theorem outcome_bind (x : Traced ε α) (f : α → Traced ε β) :
    (x >>= f).outcome = x.outcome >>= fun a => (f a).outcome := by
  cases h : x.outcome with
  | ok a => rw [bind_of_ok h]; rfl
  | error e => rw [bind_of_error h]; rfl

theorem log_bind_of_ok {x : Traced ε α} {a : α} (h : x.outcome = .ok a)
    (f : α → Traced ε β) : (x >>= f).log = x.log ++ (f a).log := by
  rw [bind_of_ok h]

/-! ## Monad laws -/

theorem bind_assoc {γ : Type} (x : Traced ε α) (f : α → Traced ε β) (g : β → Traced ε γ) :
    x >>= f >>= g = x >>= fun a => f a >>= g := by
  cases hx : x.outcome with
  | error e => rw [bind_of_error hx, bind_of_error hx, bind_of_error rfl]
  | ok a =>
    cases hf : (f a).outcome with
    | error e =>
      rw [bind_of_ok hx, bind_of_ok hx, bind_of_error hf, bind_of_error (by simpa using hf)]
    | ok b =>
      rw [bind_of_ok hx, bind_of_ok hx, bind_of_ok hf, bind_of_ok (by simpa using hf)]
      simp

instance : LawfulMonad (Traced ε) :=
  LawfulMonad.mk' _ (by rintro _ ⟨_ | _, _⟩ <;> simp [Functor.map, bind])
    (by intros; simp [Bind.bind, bind, Pure.pure]) bind_assoc

end Traced

end TripleStore
