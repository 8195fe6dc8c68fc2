import Mathlib.Data.List.Basic
import Mathlib.Data.List.Induction
import TripleStore.Resource

/-! # Canonical numerals and references -/

namespace TripleStore

namespace Decimal

theorem isCanonical_iff {cs : List Char} :
    isCanonical cs ↔
      (cs ≠ [] ∧ ∀ c ∈ cs, c.isDigit) ∧ (cs.length = 1 ∨ cs.head? ≠ some '0') := by
  simp [isCanonical, isNumeral]

theorem digitChar_toNat_sub {c : Char} (h : c.isDigit) :
    c.toNat - 48 < 10 ∧ (c.toNat - 48).digitChar = c := by
  have h48 : 48 ≤ c.toNat ∧ c.toNat ≤ 57 := by
    simp only [Char.isDigit, Bool.and_eq_true, decide_eq_true_eq, ge_iff_le,
      UInt32.le_iff_toNat_le] at h
    exact h
  refine ⟨by omega, ?_⟩
  apply Char.toNat_inj.mp
  rw [Nat.toNat_digitChar_of_lt_ten (by omega)]
  omega

theorem value_concat (cs : List Char) (c : Char) :
    value (cs ++ [c]) = 10 * value cs + (c.toNat - 48) := by
  simp [value, Nat.ofDigitChars_append, Nat.ofDigitChars_cons]

theorem digits_of_lt_ten {n : Nat} (h : n < 10) : digits n = [n.digitChar] :=
  Nat.toDigits_of_lt_base h

theorem digits_append_digits {n d : Nat} (hn : 0 < n) (hd : d < 10) :
    digits (10 * n + d) = digits n ++ digits d :=
  (Nat.toDigits_append_toDigits (by decide) hn hd).symm

theorem head?_digits_ne_zero {n : Nat} (h : 0 < n) : (digits n).head? ≠ some '0' := by
  induction n using Nat.strongRecOn with
  | _ n ih =>
    by_cases h10 : n < 10
    · rw [digits_of_lt_ten h10, List.head?_cons]
      intro heq
      have := Nat.toNat_digitChar_of_lt_ten h10
      rw [Option.some.inj heq] at this
      have : ('0' : Char).toNat = 48 := rfl
      omega
    · have hn : n = 10 * (n / 10) + n % 10 := by omega
      rw [hn, digits_append_digits (by omega) (by omega),
        List.head?_append_of_ne_nil _ (digits_ne_nil _)]
      exact ih (n / 10) (by omega) (by omega)

theorem isCanonical_digits (n : Nat) : isCanonical (digits n) := by
  rw [isCanonical_iff]
  refine ⟨⟨digits_ne_nil n, fun c => isDigit_of_mem_digits⟩, ?_⟩
  by_cases hn : n = 0
  · subst hn
    exact Or.inl rfl
  · exact Or.inr (head?_digits_ne_zero (by omega))

theorem digits_value {cs : List Char} (h : isCanonical cs) : digits (value cs) = cs := by
  induction cs using List.reverseRecOn with
  | nil => simp [isCanonical_iff] at h
  | append_singleton cs c ih =>
    obtain ⟨⟨-, hdigits⟩, hhead⟩ := isCanonical_iff.mp h
    obtain ⟨hlt, hc⟩ := digitChar_toNat_sub (hdigits c (by simp))
    have hone : digits (c.toNat - 48) = [c] := by rw [digits_of_lt_ten hlt, hc]
    rw [value_concat]
    by_cases hcs : cs = []
    · subst hcs
      simpa [value] using hone
    · -- The first of two or more digits is not zero, so the rest is canonical and not zero.
      have hlen : 0 < cs.length := List.length_pos_of_ne_nil hcs
      have hne : cs.head? ≠ some '0' := by
        rw [List.head?_append_of_ne_nil _ hcs, List.length_append, List.length_singleton] at hhead
        exact hhead.resolve_left (by omega)
      have hcan : digits (value cs) = cs :=
        ih (isCanonical_iff.mpr ⟨⟨hcs, fun d hd => hdigits d (by simp [hd])⟩, Or.inr hne⟩)
      have hpos : 0 < value cs := by
        by_contra hzero
        rw [Nat.eq_zero_of_not_pos hzero] at hcan
        rw [← hcan] at hne
        exact hne rfl
      rw [digits_append_digits hpos hlt, hcan, hone]

/-- The numeral of a number: ASCII digits, and a zero in front only if it is the whole numeral. -/
structure Writes (cs : List Char) (n : Nat) : Prop where
  ne_nil : cs ≠ []
  isDigit : ∀ c ∈ cs, c.isDigit
  eq_zero : cs.head? = some '0' → cs = ['0']
  value_eq : value cs = n

theorem writes_iff {cs : List Char} {n : Nat} : Writes cs n ↔ cs = digits n := by
  constructor
  · rintro ⟨hne, hdigits, hzero, rfl⟩
    refine (digits_value (isCanonical_iff.mpr ⟨⟨hne, hdigits⟩, ?_⟩)).symm
    by_cases h : cs.head? = some '0'
    · exact Or.inl (by rw [hzero h]; rfl)
    · exact Or.inr h
  · rintro rfl
    refine ⟨digits_ne_nil n, fun c => isDigit_of_mem_digits, ?_, value_digits n⟩
    intro hhead
    rcases (isCanonical_iff.mp (isCanonical_digits n)).2 with hone | hne
    · obtain ⟨c, hc⟩ := List.length_eq_one_iff.mp hone
      rw [hc] at hhead ⊢
      rw [Option.some.inj hhead]
    · exact absurd hhead hne

theorem index?_eq_some_iff {cs : List Char} {n : Nat} :
    index? cs = some n ↔ n ≤ maxInt ∧ cs = digits n := by
  unfold index?
  constructor
  · intro h
    split at h
    · rename_i hc
      obtain rfl : value cs = n := Option.some.inj h
      simp only [Bool.and_eq_true, decide_eq_true_eq] at hc
      exact ⟨hc.2, (digits_value hc.1).symm⟩
    · cases h
  · rintro ⟨hn, rfl⟩
    simp [isCanonical_digits, hn]

end Decimal

namespace Resource

theorem toList_bracketed (n : Nat) :
    (bracketed (toString n)).toList = '[' :: (Decimal.digits n ++ [']']) := by
  rw [bracketed, Decimal.toString_eq_ofList_digits]
  simp

theorem refOf?_eq_some_iff {text : String} {id : Nat} :
    refOf? text = some id ↔ id ≤ Decimal.maxInt ∧ text = bracketed (toString id) := by
  rw [← String.toList_inj, toList_bracketed]
  unfold refOf?
  constructor
  · intro h
    split at h
    · rename_i rest hrest
      split at h
      · rename_i hlast
        obtain ⟨hid, hdigits⟩ := Decimal.index?_eq_some_iff.mp h
        obtain ⟨front, rfl⟩ := List.getLast?_eq_some_iff.mp hlast
        rw [List.dropLast_concat] at hdigits
        exact ⟨hid, by rw [hrest, hdigits]⟩
      · cases h
    · cases h
  · rintro ⟨hid, htext⟩
    rw [htext]
    simp only [List.getLast?_concat, if_true, List.dropLast_concat]
    exact Decimal.index?_eq_some_iff.mpr ⟨hid, rfl⟩

end Resource

end TripleStore
