/-!
# Draws

A source of numbers, read one after the other. Every number of a range can be drawn:
a range of `n` numbers takes the next number of the source modulo `n`.
-/

namespace TripleStore.Trial

structure Draws where
  source : Nat → Nat
  position : Nat := 0

/-- A draw from a range with nothing in it. -/
structure EmptyRange where
  deriving DecidableEq, Repr, Inhabited

def EmptyRange.message (_ : EmptyRange) : String := "cannot sample empty range"

abbrev Drawn (α : Type) := StateT Draws (Except EmptyRange) α

/-- A number below `n`. -/
def below (n : Nat) : Drawn Nat := fun d =>
  if n = 0 then .error {}
  else .ok (d.source d.position % n, { d with position := d.position + 1 })

def coin : Drawn Bool := return (← below 2) = 0

/-! ## Rates -/

/-- A 64-bit floating-point number, as it is compared. -/
inductive Rate where
  | nan
  | negInf
  | num (r : Rat)
  | posInf
  deriving DecidableEq, Repr, Inhabited

namespace Rate

instance (n : Nat) : OfNat Rate n := ⟨num n⟩

/-- Nothing is less than `nan`, and `nan` is less than nothing. -/
def less : Rate → Rate → Bool
  | num r, num s => r < s
  | negInf, num _ | negInf, posInf | num _, posInf => true
  | _, _ => false

def atMost : Rate → Rate → Bool
  | nan, _ | _, nan => false
  | num r, num s => r ≤ s
  | negInf, _ | _, posInf => true
  | _, _ => false

instance : LT Rate := ⟨fun a b => a.less b⟩

instance : LE Rate := ⟨fun a b => a.atMost b⟩

instance (a b : Rate) : Decidable (a < b) := inferInstanceAs (Decidable (a.less b = true))

instance (a b : Rate) : Decidable (a ≤ b) := inferInstanceAs (Decidable (a.atMost b = true))

end Rate

/-- How many numbers there are from 0 up to 1: a draw has 53 bits. -/
def grain : Nat := 9007199254740992

/-- `random::<f64>() < rate`: a number from 0 up to, but not including, 1 is below the rate. -/
def chance (rate : Rate) : Drawn Bool := return .num ((← below grain : Nat) / (grain : Nat)) < rate

/-! ## A source from a seed -/

/-- Spreads the bits of a word over the whole word. -/
def mix (w : UInt64) : UInt64 :=
  let w := (w ^^^ (w >>> 30)) * 0xBF58476D1CE4E5B9
  let w := (w ^^^ (w >>> 27)) * 0x94D049BB133111EB
  w ^^^ (w >>> 31)

/-- The numbers of a seed: a counter with a large odd step, each value mixed. -/
def Draws.ofSeed (seed : Nat) : Draws :=
  { source := fun i => (mix (seed.toUInt64 + (i + 1).toUInt64 * 0x9E3779B97F4A7C15)).toNat }

end TripleStore.Trial
