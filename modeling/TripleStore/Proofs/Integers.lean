import TripleStore.Proofs.References
import TripleStore.Proofs.Typing

/-! # Texts read as integers -/

namespace TripleStore

namespace Decimal

/-! ## Signed decimals -/

structure Digits (ds : List Char) : Prop where
  ne_nil : ds ≠ []
  isDigit : ∀ c ∈ ds, c.isDigit

/-- The characters are the digits of the number, after one sign or none. -/
inductive Reads : List Char → Int → Prop
  | unsigned {ds : List Char} (h : Digits ds) : Reads ds (value ds)
  | plus {ds : List Char} (h : Digits ds) : Reads ('+' :: ds) (value ds)
  | minus {ds : List Char} (h : Digits ds) : Reads ('-' :: ds) (-value ds)

def IsWord (n : Int) : Prop := -9223372036854775808 ≤ n ∧ n ≤ 9223372036854775807

variable {cs ds : List Char} {n : Int}

theorem digits_digits (n : Nat) : Digits (digits n) :=
  ⟨digits_ne_nil n, fun _ => isDigit_of_mem_digits⟩

theorem Writes.reads {n : Nat} (h : Writes cs n) : Reads cs n := by
  rw [← h.value_eq]
  exact .unsigned ⟨h.ne_nil, h.isDigit⟩

theorem isNumeral_iff : isNumeral ds ↔ Digits ds := by
  simp only [isNumeral, Bool.and_eq_true, Bool.not_eq_true', List.isEmpty_eq_false_iff,
    List.all_eq_true]
  exact ⟨fun h => ⟨h.1, h.2⟩, fun h => ⟨h.ne_nil, h.isDigit⟩⟩

theorem map_bounded?_eq_some_iff {limit : Nat} {f : Nat → Int} :
    (bounded? limit ds).map f = some n ↔ Digits ds ∧ f (value ds) = n ∧ value ds ≤ limit := by
  unfold bounded?
  split
  · rename_i h
    rw [Bool.and_eq_true, isNumeral_iff, decide_eq_true_iff] at h
    rw [Option.map_some, Option.some.injEq]
    exact ⟨fun heq => ⟨h.1, heq, h.2⟩, fun heq => heq.2.1⟩
  · rename_i h
    rw [Bool.and_eq_true, isNumeral_iff, decide_eq_true_iff] at h
    exact ⟨nofun, fun heq => absurd ⟨heq.1, heq.2.2⟩ h⟩

/-! ## One sign or none -/

theorem reads_plus_iff : Reads ('+' :: ds) n ↔ Digits ds ∧ (value ds : Int) = n := by
  constructor
  · rintro (h | h)
    · exact absurd (h.isDigit '+' List.mem_cons_self) (by decide)
    · exact ⟨h, rfl⟩
  · rintro ⟨h, rfl⟩
    exact .plus h

theorem reads_minus_iff : Reads ('-' :: ds) n ↔ Digits ds ∧ -(value ds : Int) = n := by
  constructor
  · rintro (h | _ | h)
    · exact absurd (h.isDigit '-' List.mem_cons_self) (by decide)
    · exact ⟨h, rfl⟩
  · rintro ⟨h, rfl⟩
    exact .minus h

theorem reads_iff_of_no_sign (hminus : ∀ ds, cs ≠ '-' :: ds) (hplus : ∀ ds, cs ≠ '+' :: ds) :
    Reads cs n ↔ Digits cs ∧ (value cs : Int) = n := by
  constructor
  · rintro (h | h | h)
    · exact ⟨h, rfl⟩
    · exact absurd rfl (hplus _)
    · exact absurd rfl (hminus _)
  · rintro ⟨h, rfl⟩
    exact .unsigned h

theorem int?_minus (ds : List Char) :
    int? ('-' :: ds) = (bounded? (maxInt + 1) ds).map fun m : Nat => -(m : Int) := by
  simp only [int?]
  cases bounded? (maxInt + 1) ds <;> rfl

theorem int?_plus (ds : List Char) :
    int? ('+' :: ds) = (bounded? maxInt ds).map Int.ofNat := rfl

theorem int?_of_no_sign (hminus : ∀ ds, cs ≠ '-' :: ds) (hplus : ∀ ds, cs ≠ '+' :: ds) :
    int? cs = (bounded? maxInt cs).map Int.ofNat := by
  unfold int?
  split
  · exact absurd rfl (hminus _)
  · exact absurd rfl (hplus _)
  · rfl

theorem isWord_natCast_iff (m : Nat) : IsWord m ↔ m ≤ maxInt := by
  unfold IsWord maxInt
  omega

theorem isWord_neg_natCast_iff (m : Nat) : IsWord (-m) ↔ m ≤ maxInt + 1 := by
  unfold IsWord maxInt
  omega

theorem digits_and_isWord_congr {m : Int} :
    Digits ds ∧ m = n ∧ IsWord m ↔ (Digits ds ∧ m = n) ∧ IsWord n := by
  rw [and_assoc]
  exact and_congr_right fun _ => and_congr_right fun h => h ▸ Iff.rfl

theorem int?_eq_some_iff : int? cs = some n ↔ Reads cs n ∧ IsWord n := by
  by_cases hminus : ∃ ds, cs = '-' :: ds
  · obtain ⟨ds, rfl⟩ := hminus
    rw [int?_minus, map_bounded?_eq_some_iff, reads_minus_iff, ← isWord_neg_natCast_iff]
    exact digits_and_isWord_congr
  by_cases hplus : ∃ ds, cs = '+' :: ds
  · obtain ⟨ds, rfl⟩ := hplus
    rw [int?_plus, map_bounded?_eq_some_iff, reads_plus_iff, ← isWord_natCast_iff]
    exact digits_and_isWord_congr
  have hminus : ∀ ds, cs ≠ '-' :: ds := not_exists.mp hminus
  have hplus : ∀ ds, cs ≠ '+' :: ds := not_exists.mp hplus
  rw [int?_of_no_sign hminus hplus, map_bounded?_eq_some_iff, reads_iff_of_no_sign hminus hplus,
    ← isWord_natCast_iff]
  exact digits_and_isWord_congr

theorem int?_eq_none_iff : int? cs = none ↔ ∀ n, ¬ (Reads cs n ∧ IsWord n) := by
  simp only [Option.eq_none_iff_forall_ne_some, ne_eq, int?_eq_some_iff]

theorem reads_toString (n : Int) : Reads (toString n).toList n := by
  cases n with
  | ofNat m =>
    have htext : toString (Int.ofNat m) = toString m := rfl
    rw [htext, toString_eq_ofList_digits, String.toList_ofList]
    exact (writes_iff.mpr rfl).reads
  | negSucc m =>
    have htext : toString (Int.negSucc m) = "-" ++ toString (m + 1) := rfl
    have hcs : (toString (Int.negSucc m)).toList = '-' :: digits (m + 1) := by
      rw [htext, toString_eq_ofList_digits]
      simp
    have hvalue : Int.negSucc m = -(value (digits (m + 1)) : Int) := by
      rw [value_digits]
      rfl
    rw [hcs, hvalue]
    exact .minus (digits_digits _)

end Decimal

/-! ## Terms on a text -/

namespace Term

variable {t : Term} {s : Statement} {x : String} {n : Int}

theorem eval_parseInt_eq_ok_int_iff (h : t.eval s = .ok (.text x)) :
    (parseInt t).eval s = .ok (.int n) ↔ Decimal.Reads x.toList n ∧ Decimal.IsWord n := by
  have heval : (parseInt t).eval s = Value.readInt (.text x) := by
    rw [eval, h]
    rfl
  rw [heval, ← Decimal.int?_eq_some_iff, Value.readInt]
  cases Decimal.int? x.toList <;> simp

theorem eval_parseInt_of_not_reads (h : t.eval s = .ok (.text x))
    (hx : ∀ n, ¬ (Decimal.Reads x.toList n ∧ Decimal.IsWord n)) :
    (parseInt t).eval s = .error (.conversion x "integer") := by
  rw [eval, h]
  have hread : Value.readInt (.text x) = .error (.conversion x "integer") := by
    rw [Value.readInt, Decimal.int?_eq_none_iff.mpr hx]
  exact hread

theorem eval_parseInt_parseInt (t : Term) (s : Statement) :
    (parseInt (parseInt t)).eval s = (parseInt t).eval s := by
  have htwice (v : Value) : v.readInt >>= Value.readInt = v.readInt := by
    cases v with
    | text x =>
      rw [Value.readInt]
      cases Decimal.int? x.toList <;> rfl
    | int n | kind k => rfl
  rw [eval, eval]
  cases t.eval s with
  | error cause => rfl
  | ok v => exact htwice v

theorem eval_reifiedId_eq_ok_nat_iff {n : Nat} (h : t.eval s = .ok (.text x)) :
    (reifiedId t).eval s = .ok (.int n) ↔ Resource.WritesRef x n := by
  have heval : (reifiedId t).eval s = Value.readRef (.text x) := by
    rw [eval, h]
    rfl
  rw [heval, ← Resource.refOf?_eq_some_iff_writesRef, Value.readRef]
  cases Resource.refOf? x with
  | none => simp [notReified]
  | some id => simp only [Except.ok.injEq, Value.int.injEq, Option.some.injEq, Int.natCast_inj]

end Term

theorem Resource.writesRef_bracketed_iff {d : String} {n : Nat} :
    WritesRef ("[" ++ d ++ "]") n ↔ n ≤ Decimal.maxInt ∧ Decimal.Writes d.toList n := by
  unfold WritesRef
  refine and_congr_right fun _ => ?_
  constructor
  · rintro ⟨cs, hcs, htext⟩
    have hd : d = String.ofList cs :=
      (String.append_right_inj _).mp ((String.append_left_inj _).mp htext)
    rw [hd, String.toList_ofList]
    exact hcs
  · intro hd
    exact ⟨d.toList, hd, by rw [String.ofList_toList]⟩

/-- A text is read as the 64-bit number of which it is a signed decimal, or it is refused. -/
theorem Term.integers_read_exactly (t : Term) (s : Statement) :
    (∀ x, t.eval s = .ok (.text x) →
      (∀ n, (parseInt t).eval s = .ok (.int n) ↔ Decimal.Reads x.toList n ∧ Decimal.IsWord n) ∧
      ((∀ n, ¬ (Decimal.Reads x.toList n ∧ Decimal.IsWord n)) →
        (parseInt t).eval s = .error (.conversion x "integer"))) ∧
    (∀ n : Int, Decimal.IsWord n → t.eval s = .ok (.text (toString n)) →
      (parseInt t).eval s = .ok (.int n)) ∧
    (parseInt (parseInt t)).eval s = (parseInt t).eval s ∧
    ∀ (d : String) (n : Nat) (t' : Term) (s' : Statement),
      t.eval s = .ok (.text ("[" ++ d ++ "]")) → t'.eval s' = .ok (.text d) →
      ((reifiedId t).eval s = .ok (.int n) ↔
        Decimal.Writes d.toList n ∧ (parseInt t').eval s' = .ok (.int n)) := by
  refine ⟨?_, ?_, eval_parseInt_parseInt t s, ?_⟩
  · intro x hx
    exact ⟨fun n => eval_parseInt_eq_ok_int_iff hx, eval_parseInt_of_not_reads hx⟩
  · intro n hn hx
    exact (eval_parseInt_eq_ok_int_iff hx).mpr ⟨Decimal.reads_toString n, hn⟩
  · intro d n t' s' hx hd
    rw [eval_reifiedId_eq_ok_nat_iff hx, Resource.writesRef_bracketed_iff,
      eval_parseInt_eq_ok_int_iff hd, Decimal.isWord_natCast_iff]
    constructor
    · rintro ⟨hn, hwrites⟩
      exact ⟨hwrites, hwrites.reads, hn⟩
    · rintro ⟨hwrites, -, hn⟩
      exact ⟨hn, hwrites⟩

theorem Term.extremes_read :
    let said (text : String) : Statement := ⟨.name "Topi", "my:number", some (.literal text), 0⟩
    (parseInt object).eval (said "-09223372036854775808") = .ok (.int (-9223372036854775808)) ∧
      (parseInt object).eval (said "9223372036854775808") =
        .error (.conversion "9223372036854775808" "integer") ∧
      (Decimal.IsWord 9223372036854775807 ∧
        (parseInt object).eval (said "9223372036854775807") = .ok (.int 9223372036854775807)) ∧
      (parseInt (parseInt object)).eval (said " 5") = (parseInt object).eval (said " 5") ∧
      (reifiedId object).eval (said "[42]") = .ok (.int 42) ∧
      (reifiedId object).eval (said "[+42]") ≠ .ok (.int 42) := by
  intro said
  have hread := (integers_read_exactly object (said "-09223372036854775808")).1 _ rfl
  have hrefused := (integers_read_exactly object (said "9223372036854775808")).1 _ rfl
  obtain ⟨-, hcanonical, -⟩ := integers_read_exactly object (said "9223372036854775807")
  obtain ⟨-, -, htwice, -⟩ := integers_read_exactly object (said " 5")
  obtain ⟨-, -, -, hbrackets⟩ := integers_read_exactly object (said "[42]")
  obtain ⟨-, -, -, hsigned⟩ := integers_read_exactly object (said "[+42]")
  have hgreatest : Decimal.IsWord 9223372036854775807 := ⟨by decide, by decide⟩
  refine ⟨?_, ?_, ⟨hgreatest, hcanonical _ hgreatest rfl⟩, htwice, ?_, ?_⟩
  · exact (hread.1 _).mpr (Decimal.int?_eq_some_iff.mp (by decide))
  · exact hrefused.2 (Decimal.int?_eq_none_iff.mp (by decide))
  · exact (hbrackets "42" 42 object (said "42") rfl rfl).mpr ⟨Decimal.writes_iff.mpr rfl, by decide⟩
  · intro h
    have hwrites := ((hsigned "+42" 42 object (said "+42") rfl rfl).mp h).1
    exact absurd (hwrites.isDigit '+' (by decide)) (by decide)

end TripleStore
