import Mathlib.Algebra.Group.Defs
import Mathlib.Data.String.Basic
import Mathlib.Tactic.SplitIfs

/-!
# The order of texts

A character that UTF-8 writes in fewer bytes has the lower code point and the lower first byte.
Among those of one width the bytes hold the digits of the code point.
-/

namespace TripleStore.Text

def codePoints (x : String) : List Nat := x.toList.map Char.toNat

def bytes (x : String) : List UInt8 := x.toUTF8.data.toList

theorem bytes_eq_flatMap (x : String) : bytes x = x.toList.flatMap String.utf8EncodeChar := by
  rw [bytes, String.toUTF8, ← String.utf8Encode_toList, List.utf8Encode, List.data_toByteArray]

/-! ## The order of code points -/

theorem map_toNat_lt_iff (cs ds : List Char) :
    cs.map Char.toNat < ds.map Char.toNat ↔ cs < ds := by
  induction cs generalizing ds with
  | nil => cases ds <;> simp
  | cons c cs ih =>
    cases ds with
    | nil => simp
    | cons d ds =>
      rw [List.map_cons, List.map_cons, List.cons_lt_cons_iff, List.cons_lt_cons_iff, ih,
        Char.toNat_inj]
      exact Iff.rfl

theorem codePoints_lt_iff (x y : String) : codePoints x < codePoints y ↔ x < y := by
  rw [codePoints, codePoints, map_toNat_lt_iff, String.lt_iff_toList_lt]

/-! ## The bytes of a character -/

def following (n : Nat) : Nat :=
  if n ≤ 0x7f then 0 else if n ≤ 0x7ff then 1 else if n ≤ 0xffff then 2 else 3

/-- What a first byte is counted from, by the number of bytes that follow it. -/
def mark : Nat → Nat
  | 0 => 0
  | 1 => 0xc0
  | 2 => 0xe0
  | _ => 0xf0

def firstByte (n : Nat) : Nat := n / 64 ^ following n + mark (following n)

/-- The lowest digits to the base 64, the highest of them first. -/
def digitBytes : Nat → Nat → List UInt8
  | 0, _ => []
  | k + 1, n => UInt8.ofNat (n / 64 ^ k % 64 + 0x80) :: digitBytes k n

theorem toNat_lt (c : Char) : c.toNat < 0x110000 := by
  have h : c.val.toNat < 0xd800 ∨ 0xdfff < c.val.toNat ∧ c.val.toNat < 0x110000 := c.valid
  rw [Char.toNat_val] at h
  omega

theorem following_mono {m n : Nat} (h : m ≤ n) : following m ≤ following n := by
  unfold following
  split_ifs <;> omega

theorem firstByte_lt {n : Nat} (hn : n < 0x110000) : firstByte n < 256 := by
  unfold firstByte following
  split_ifs <;> simp only [mark] <;> omega

theorem firstByte_lt_of_following_lt {m n : Nat} (h : following m < following n) :
    firstByte m < firstByte n := by
  revert h
  unfold firstByte following
  split_ifs <;> simp only [mark] <;> omega

theorem utf8EncodeChar_eq (c : Char) :
    String.utf8EncodeChar c =
      UInt8.ofNat (firstByte c.toNat) :: digitBytes (following c.toNat) c.toNat := by
  have hc : c.toNat < 0x110000 := toNat_lt c
  simp only [String.utf8EncodeChar, Char.toNat_val, firstByte, following]
  generalize c.toNat = n at hc ⊢
  split_ifs
  · simp [mark, digitBytes]
  · have hdigit : n / 64 % 32 = n / 64 := by omega
    simp [mark, digitBytes, hdigit]
  · have hdigit : n / 4096 % 16 = n / 4096 := by omega
    simp [mark, digitBytes, hdigit]
  · have hdigit : n / 262144 % 8 = n / 262144 := by omega
    simp [mark, digitBytes, hdigit]

/-! ## The order of bytes -/

theorem ofNat_lt_ofNat_iff {m n : Nat} (hm : m < 256) (hn : n < 256) :
    UInt8.ofNat m < UInt8.ofNat n ↔ m < n := by
  rw [UInt8.lt_iff_toNat_lt, UInt8.toNat_ofNat', UInt8.toNat_ofNat', Nat.mod_eq_of_lt hm,
    Nat.mod_eq_of_lt hn]

theorem digitBytes_lt {k m n : Nat} (hmn : m < n) (hhigh : m / 64 ^ k = n / 64 ^ k)
    (u v : List UInt8) : digitBytes k m ++ u < digitBytes k n ++ v := by
  induction k with
  | zero => simp at hhigh; omega
  | succ k ih =>
    rw [digitBytes, digitBytes, List.cons_append, List.cons_append, List.cons_lt_cons_iff]
    rw [pow_succ, ← Nat.div_div_eq_div_mul, ← Nat.div_div_eq_div_mul] at hhigh
    have hle : m / 64 ^ k ≤ n / 64 ^ k := Nat.div_le_div_right hmn.le
    rcases hle.eq_or_lt with heq | hlt
    · exact .inr ⟨by rw [heq], ih heq⟩
    · left
      rw [ofNat_lt_ofNat_iff (by omega) (by omega)]
      omega

theorem utf8EncodeChar_lt {c d : Char} (h : c.toNat < d.toNat) (u v : List UInt8) :
    String.utf8EncodeChar c ++ u < String.utf8EncodeChar d ++ v := by
  have hc : firstByte c.toNat < 256 := firstByte_lt (toNat_lt c)
  have hd : firstByte d.toNat < 256 := firstByte_lt (toNat_lt d)
  rw [utf8EncodeChar_eq, utf8EncodeChar_eq, List.cons_append, List.cons_append,
    List.cons_lt_cons_iff, ofNat_lt_ofNat_iff hc hd]
  rcases (following_mono h.le).eq_or_lt with hwidth | hwidth
  · -- Of one width: the first bytes differ, or else the digits behind them do.
    have hle : c.toNat / 64 ^ following d.toNat ≤ d.toNat / 64 ^ following d.toNat :=
      Nat.div_le_div_right h.le
    rw [firstByte, firstByte, hwidth]
    rcases hle.eq_or_lt with heq | hlt
    · exact .inr ⟨by rw [heq], digitBytes_lt h heq u v⟩
    · exact .inl (by omega)
  · exact .inl (firstByte_lt_of_following_lt hwidth)

theorem append_lt_append_iff (w u v : List UInt8) : w ++ u < w ++ v ↔ u < v := by
  induction w with
  | nil => rfl
  | cons x w ih => simp [ih]

theorem flatMap_utf8EncodeChar_lt_iff (cs ds : List Char) :
    cs.flatMap String.utf8EncodeChar < ds.flatMap String.utf8EncodeChar ↔
      cs.map Char.toNat < ds.map Char.toNat := by
  induction cs generalizing ds with
  | nil =>
    cases ds with
    | nil => simp
    | cons d ds => simp [utf8EncodeChar_eq]
  | cons c cs ih =>
    cases ds with
    | nil => simp
    | cons d ds =>
      rw [List.flatMap_cons, List.flatMap_cons, List.map_cons, List.map_cons,
        List.cons_lt_cons_iff, ← ih]
      rcases Nat.lt_trichotomy c.toNat d.toNat with hlt | heq | hgt
      · exact iff_of_true (utf8EncodeChar_lt hlt _ _) (.inl hlt)
      · rw [Char.toNat_inj.mp heq, append_lt_append_iff]
        simp
      · refine iff_of_false (List.lt_asymm (utf8EncodeChar_lt hgt _ _)) ?_
        omega

theorem bytes_lt_iff (x y : String) : bytes x < bytes y ↔ codePoints x < codePoints y := by
  rw [bytes_eq_flatMap, bytes_eq_flatMap, flatMap_utf8EncodeChar_lt_iff]
  rfl

theorem codePoints_lt_append (x : String) {y : String} (hy : y ≠ "") :
    codePoints x < codePoints (x ++ y) := by
  have happend : codePoints (x ++ y) = codePoints x ++ codePoints y := by simp [codePoints]
  have hnil : [] < codePoints y := by
    cases h : codePoints y with
    | nil => exact absurd (by simpa [codePoints] using h) hy
    | cons n ns => exact List.nil_lt_cons n ns
  have hlt : codePoints x ++ [] < codePoints x ++ codePoints y := List.append_left_lt hnil
  rw [happend]
  rwa [List.append_nil] at hlt

end TripleStore.Text
