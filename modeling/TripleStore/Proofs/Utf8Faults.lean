import Mathlib.Tactic.Ring
import TripleStore.Proofs.TextOrder

/-! # Bytes that are no text -/

namespace TripleStore.Text

/-! ## Sequences of bytes -/

/-- How many bytes are to follow a first byte, if it can stand first. -/
def asksFor (b : UInt8) : Option Nat :=
  if b.toNat < 0x80 then some 0
  else if b.toNat < 0xc0 then none
  else if b.toNat < 0xe0 then some 1
  else if b.toNat < 0xf0 then some 2
  else if b.toNat < 0xf8 then some 3
  else none

def firstBytes : Nat → Nat
  | 0 => 0x80
  | 1 => 0x20
  | 2 => 0x10
  | _ => 0x08

/-- The byte can follow a first byte. It holds a digit to the base 64. -/
def Follows (d : UInt8) : Prop := 0x80 ≤ d.toNat ∧ d.toNat < 0xc0

instance (d : UInt8) : Decidable (Follows d) :=
  inferInstanceAs (Decidable (0x80 ≤ d.toNat ∧ d.toNat < 0xc0))

def withDigits (n : Nat) (ds : List UInt8) : Nat :=
  ds.foldl (fun n d => n * 64 + (d.toNat - 0x80)) n

structure IsSequence (b : UInt8) (ds : List UInt8) : Prop where
  asked : asksFor b = some ds.length
  follows : ∀ d ∈ ds, Follows d

def number (b : UInt8) (ds : List UInt8) : Nat := withDigits (b.toNat - mark ds.length) ds

/-- What can be wrong with bytes at their start. -/
inductive Fault : List UInt8 → Prop
  | stray {b : UInt8} {rest : List UInt8} (h : asksFor b = none) : Fault (b :: rest)
  | cutShort {b : UInt8} {rest : List UInt8} (h : asksFor b ≠ none)
      (hrest : ∀ ds, ds <+: rest → ¬ IsSequence b ds) : Fault (b :: rest)
  | overlong {b : UInt8} {ds rest : List UInt8} (h : IsSequence b ds)
      (hn : following (number b ds) < ds.length) : Fault (b :: (ds ++ rest))
  | surrogate {b : UInt8} {ds rest : List UInt8} (h : IsSequence b ds)
      (hn : 0xd800 ≤ number b ds ∧ number b ds ≤ 0xdfff) : Fault (b :: (ds ++ rest))
  | tooHigh {b : UInt8} {ds rest : List UInt8} (h : IsSequence b ds)
      (hn : 0x10ffff < number b ds) : Fault (b :: (ds ++ rest))

/-! ## First bytes -/

theorem asksFor_eq_some_iff {b : UInt8} {k : Nat} :
    asksFor b = some k ↔ k ≤ 3 ∧ mark k ≤ b.toNat ∧ b.toNat < mark k + firstBytes k := by
  unfold asksFor
  constructor
  · intro h
    split_ifs at h <;> obtain rfl := Option.some.inj h <;> simp only [mark, firstBytes] <;> omega
  · rintro ⟨hk, h⟩
    obtain rfl | rfl | rfl | rfl : k = 0 ∨ k = 1 ∨ k = 2 ∨ k = 3 := by omega
    all_goals
      simp only [mark, firstBytes] at h
      split_ifs <;> first | rfl | omega

theorem following_le_three (n : Nat) : following n ≤ 3 := by
  unfold following
  split_ifs <;> decide

theorem div_following_lt {n : Nat} (hn : n < 0x110000) :
    n / 64 ^ following n < firstBytes (following n) := by
  unfold following
  split_ifs <;> simp only [firstBytes] <;> omega

theorem following_le_of_div_lt {n k : Nat} (hk : k ≤ 3) (h : n / 64 ^ k < firstBytes k) :
    following n ≤ k := by
  obtain rfl | rfl | rfl | rfl : k = 0 ∨ k = 1 ∨ k = 2 ∨ k = 3 := by omega
  all_goals
    simp only [firstBytes] at h
    unfold following
    split_ifs <;> omega

/-! ## The sequence of a number -/

theorem asksFor_firstByte {n : Nat} (hn : n < 0x110000) :
    asksFor (UInt8.ofNat (firstByte n)) = some (following n) := by
  rw [asksFor_eq_some_iff, UInt8.toNat_ofNat', Nat.mod_eq_of_lt (firstByte_lt hn), firstByte]
  refine ⟨following_le_three n, Nat.le_add_left _ _, ?_⟩
  rw [Nat.add_comm]
  exact Nat.add_lt_add_left (div_following_lt hn) _

theorem length_digitBytes (k n : Nat) : (digitBytes k n).length = k := by
  induction k with
  | zero => rfl
  | succ k ih => rw [digitBytes, List.length_cons, ih]

theorem toNat_digitByte {r : Nat} (hr : r < 64) : (UInt8.ofNat (r + 0x80)).toNat = r + 0x80 := by
  rw [UInt8.toNat_ofNat', Nat.mod_eq_of_lt (by omega)]

theorem follows_of_mem_digitBytes {k n : Nat} {d : UInt8} (h : d ∈ digitBytes k n) : Follows d := by
  induction k with
  | zero => cases h
  | succ k ih =>
    rcases List.mem_cons.mp h with rfl | h
    · have hr : n / 64 ^ k % 64 < 64 := Nat.mod_lt _ (by decide)
      rw [Follows, toNat_digitByte hr]
      omega
    · exact ih h

theorem withDigits_cons (m : Nat) (d : UInt8) (ds : List UInt8) :
    withDigits m (d :: ds) = withDigits (m * 64 + (d.toNat - 0x80)) ds := by
  simp only [withDigits, List.foldl_cons]

theorem withDigits_digitBytes (m k n : Nat) :
    withDigits m (digitBytes k n) = m * 64 ^ k + n % 64 ^ k := by
  induction k generalizing m with
  | zero => simp [digitBytes, withDigits, Nat.mod_one]
  | succ k ih =>
    have hr : n / 64 ^ k % 64 < 64 := Nat.mod_lt _ (by decide)
    rw [digitBytes, withDigits_cons, toNat_digitByte hr, ih, Nat.add_sub_cancel, Nat.mod_pow_succ]
    ring

theorem isSequence_firstByte {n : Nat} (hn : n < 0x110000) :
    IsSequence (UInt8.ofNat (firstByte n)) (digitBytes (following n) n) :=
  ⟨by rw [asksFor_firstByte hn, length_digitBytes], fun _ => follows_of_mem_digitBytes⟩

theorem number_firstByte {n : Nat} (hn : n < 0x110000) :
    number (UInt8.ofNat (firstByte n)) (digitBytes (following n) n) = n := by
  rw [number, length_digitBytes, withDigits_digitBytes, UInt8.toNat_ofNat',
    Nat.mod_eq_of_lt (firstByte_lt hn), firstByte, Nat.add_sub_cancel, Nat.mul_comm]
  exact Nat.div_add_mod n _

/-! ## The number of a sequence -/

variable {b : UInt8} {ds rest : List UInt8}

theorem withDigits_div (m : Nat) (hds : ∀ d ∈ ds, Follows d) :
    withDigits m ds / 64 ^ ds.length = m := by
  induction ds generalizing m with
  | nil => simp [withDigits]
  | cons d ds ih =>
    obtain ⟨hd, hds⟩ := List.forall_mem_cons.mp hds
    rw [withDigits_cons, List.length_cons, pow_succ, ← Nat.div_div_eq_div_mul, ih _ hds]
    unfold Follows at hd
    omega

theorem digitBytes_withDigits (m : Nat) (hds : ∀ d ∈ ds, Follows d) :
    digitBytes ds.length (withDigits m ds) = ds := by
  induction ds generalizing m with
  | nil => rfl
  | cons d ds ih =>
    obtain ⟨hd, hds⟩ := List.forall_mem_cons.mp hds
    unfold Follows at hd
    have hdigit : (m * 64 + (d.toNat - 0x80)) % 64 + 0x80 = d.toNat := by omega
    rw [withDigits_cons, List.length_cons, digitBytes, withDigits_div _ hds, ih _ hds, hdigit,
      UInt8.ofNat_toNat]

theorem following_number_le (h : IsSequence b ds) : following (number b ds) ≤ ds.length := by
  obtain ⟨hlength, hlow, hhigh⟩ := asksFor_eq_some_iff.mp h.asked
  apply following_le_of_div_lt hlength
  rw [number, withDigits_div _ h.follows]
  omega

theorem firstByte_number (h : IsSequence b ds) (hn : following (number b ds) = ds.length) :
    firstByte (number b ds) = b.toNat := by
  rw [firstByte, hn, number, withDigits_div _ h.follows]
  exact Nat.sub_add_cancel (asksFor_eq_some_iff.mp h.asked).2.1

theorem IsSequence.eq_of_append_eq {ds' rest' : List UInt8} (h : IsSequence b ds)
    (h' : IsSequence b ds') (heq : ds ++ rest = ds' ++ rest') : ds = ds' := by
  have hlength : ds.length = ds'.length := Option.some.inj (h.asked.symm.trans h'.asked)
  exact (List.append_inj heq hlength).1

/-! ## Characters and faults -/

theorem not_fault_utf8EncodeChar (c : Char) (rest : List UInt8) :
    ¬ Fault (String.utf8EncodeChar c ++ rest) := by
  have hc : c.toNat < 0x110000 := toNat_lt c
  have hvalid : c.toNat < 0xd800 ∨ 0xdfff < c.toNat ∧ c.toNat < 0x110000 := c.valid
  rw [utf8EncodeChar_eq, List.cons_append]
  have hown := isSequence_firstByte hc
  have hnumber := number_firstByte hc
  have hlength := length_digitBytes (following c.toNat) c.toNat
  -- The bytes start with one sequence only, and it writes the number of the character.
  generalize UInt8.ofNat (firstByte c.toNat) = b at hown hnumber ⊢
  generalize digitBytes (following c.toNat) c.toNat = ds at hown hnumber hlength ⊢
  generalize hbs : b :: (ds ++ rest) = bs
  rintro (h | ⟨-, hrest⟩ | ⟨h, hn⟩ | ⟨h, hn⟩ | ⟨h, hn⟩) <;> obtain ⟨rfl, heq⟩ := List.cons.inj hbs
  · rw [hown.asked] at h
    cases h
  · exact hrest ds ⟨rest, heq⟩ hown
  all_goals
    obtain rfl := hown.eq_of_append_eq h heq
    rw [hnumber] at hn
    omega

theorem exists_utf8EncodeChar_of_not_fault {b : UInt8} {tail : List UInt8}
    (h : ¬ Fault (b :: tail)) : ∃ c rest, b :: tail = String.utf8EncodeChar c ++ rest := by
  have hsequence : ∃ ds, ds <+: tail ∧ IsSequence b ds := by
    by_contra hnone
    by_cases hasked : asksFor b = none
    · exact h (.stray hasked)
    · exact h (.cutShort hasked fun ds hds hsequence => hnone ⟨ds, hds, hsequence⟩)
  obtain ⟨ds, ⟨rest, rfl⟩, hsequence⟩ := hsequence
  have hwidth : following (number b ds) = ds.length := by
    have hle := following_number_le hsequence
    by_contra hne
    exact h (.overlong hsequence (by omega))
  have hvalid : (number b ds).isValidChar := by
    have hsurrogate : ¬ (0xd800 ≤ number b ds ∧ number b ds ≤ 0xdfff) :=
      fun hn => h (.surrogate hsequence hn)
    have hhigh : ¬ 0x10ffff < number b ds := fun hn => h (.tooHigh hsequence hn)
    unfold Nat.isValidChar
    omega
  have hchar : (Char.ofNatAux (number b ds) hvalid).toNat = number b ds := rfl
  refine ⟨Char.ofNatAux (number b ds) hvalid, rest, ?_⟩
  rw [utf8EncodeChar_eq, hchar, firstByte_number hsequence hwidth, hwidth,
    UInt8.ofNat_toNat, number, digitBytes_withDigits _ hsequence.follows, List.cons_append]

/-! ## Texts and faults -/

theorem bytes_ofList_cons (c : Char) (cs : List Char) :
    bytes (.ofList (c :: cs)) = String.utf8EncodeChar c ++ bytes (.ofList cs) := by
  simp only [bytes_eq_flatMap, String.toList_ofList, List.flatMap_cons]

theorem exists_text_or_fault (bs : List UInt8) :
    (∃ x : String, bytes x = bs) ∨ ∃ (front : String) (rest : List UInt8),
      bs = bytes front ++ rest ∧ Fault rest := by
  induction hn : bs.length using Nat.strongRecOn generalizing bs with
  | ind n ih =>
    cases bs with
    | nil => exact .inl ⟨"", by rfl⟩
    | cons b tail =>
      by_cases hfault : Fault (b :: tail)
      · exact .inr ⟨"", b :: tail, by rfl, hfault⟩
      · obtain ⟨c, rest, hbs⟩ := exists_utf8EncodeChar_of_not_fault hfault
        have hshort : rest.length < n := by
          have hpos : 0 < (String.utf8EncodeChar c).length :=
            List.length_pos_of_ne_nil String.utf8EncodeChar_ne_nil
          rw [← hn, hbs, List.length_append]
          omega
        rw [hbs]
        rcases ih rest.length hshort rest rfl with ⟨x, hx⟩ | ⟨front, more, hrest, hmore⟩
        · refine .inl ⟨.ofList (c :: x.toList), ?_⟩
          rw [bytes_ofList_cons, String.ofList_toList, hx]
        · refine .inr ⟨.ofList (c :: front.toList), more, ?_, hmore⟩
          rw [bytes_ofList_cons, String.ofList_toList, hrest, List.append_assoc]

theorem bytes_ne_of_fault {rest : List UInt8} (hrest : Fault rest) (x front : String) :
    bytes x ≠ bytes front ++ rest := by
  rw [bytes_eq_flatMap, bytes_eq_flatMap]
  intro h
  have hencoded : front.toList.utf8Encode ++ rest.toByteArray = x.toList.utf8Encode := by
    rw [List.utf8Encode, List.utf8Encode, h, List.toByteArray_append]
  obtain ⟨cs, hcs⟩ := List.isPrefix_of_utf8Encode_append_eq_utf8Encode _ hencoded
  rw [← hcs, List.flatMap_append, List.append_cancel_left_eq] at h
  subst h
  cases cs with
  | nil => cases hrest
  | cons c cs =>
    rw [List.flatMap_cons] at hrest
    exact not_fault_utf8EncodeChar c _ hrest

theorem not_text_iff (bs : List UInt8) :
    (∀ x : String, bytes x ≠ bs) ↔ ∃ (front : String) (rest : List UInt8),
      bs = bytes front ++ rest ∧ Fault rest := by
  constructor
  · intro h
    exact (exists_text_or_fault bs).resolve_left fun ⟨x, hx⟩ => h x hx
  · rintro ⟨front, rest, rfl, hrest⟩ x
    exact bytes_ne_of_fault hrest x front

end TripleStore.Text
