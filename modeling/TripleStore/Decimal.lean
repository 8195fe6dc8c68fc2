/-!
# Decimal numbers

`digits` writes a number, `value` reads a run of digits back. A run is canonical
if it is how its value is written: there is one canonical run for each number.
-/

namespace TripleStore.Decimal

/-- The largest signed 64-bit number. Ids and integers stop here. -/
def maxInt : Nat := 9223372036854775807

/-- How a number is written: no sign and no leading zero. -/
def digits (n : Nat) : List Char := Nat.toDigits 10 n

/-- The value of a run of digits. -/
def value (cs : List Char) : Nat := Nat.ofDigitChars 10 cs 0

@[simp] theorem value_digits (n : Nat) : value (digits n) = n := Nat.ofDigitChars_ten_toDigits

theorem digits_ne_nil (n : Nat) : digits n ≠ [] := Nat.toDigits_ne_nil

theorem isDigit_of_mem_digits {n : Nat} {c : Char} (h : c ∈ digits n) : c.isDigit = true :=
  Nat.isDigit_of_mem_toDigits (by decide) (by decide) h

theorem toString_eq_ofList_digits (n : Nat) : toString n = String.ofList (digits n) :=
  Nat.toString_eq_ofList_toDigits

/-! ## Runs of digits -/

/-- One or more ASCII digits, and nothing else. -/
def isNumeral (cs : List Char) : Bool := !cs.isEmpty && cs.all Char.isDigit

/-- A numeral with no zero in front of another digit. -/
def isCanonical (cs : List Char) : Bool :=
  isNumeral cs && (cs.length == 1 || cs.head? != some '0')

/-- The digits of `parse_statement_ref`: a canonical numeral that is not above `maxInt`. -/
def index? (cs : List Char) : Option Nat :=
  if isCanonical cs && value cs ≤ maxInt then some (value cs) else none

/-! ## Signed numbers -/

/-- Reads a numeral that is not above `limit`. -/
def bounded? (limit : Nat) (cs : List Char) : Option Nat :=
  if isNumeral cs && value cs ≤ limit then some (value cs) else none

/-- `parse` of a signed 64-bit number: at most one sign, then digits, zeros in front allowed. -/
def int? : List Char → Option Int
  | '-' :: cs => (bounded? (maxInt + 1) cs).map fun n => -(n : Int)
  | '+' :: cs => (bounded? maxInt cs).map Int.ofNat
  | cs => (bounded? maxInt cs).map Int.ofNat

end TripleStore.Decimal
