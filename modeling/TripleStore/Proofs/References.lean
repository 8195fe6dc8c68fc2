import TripleStore.Proofs.Written

/-! # References as texts -/

namespace TripleStore

namespace Resource

def WritesRef (t : String) (id : Nat) : Prop :=
  id ≤ Decimal.maxInt ∧ ∃ cs, Decimal.Writes cs id ∧ t = "[" ++ String.ofList cs ++ "]"

theorem refOf?_eq_some_iff_writesRef {t : String} {id : Nat} :
    refOf? t = some id ↔ WritesRef t id := by
  simp only [refOf?_eq_some_iff, WritesRef, Decimal.writes_iff, exists_eq_left, bracketed,
    Decimal.toString_eq_ofList_digits]

theorem parse_eq_ref_iff {t : String} {id : Int} :
    parse t = .ref id ↔ ∃ n : Nat, id = n ∧ WritesRef t n := by
  simp only [← refOf?_eq_some_iff_writesRef, parse]
  cases refOf? t with
  | none => simp
  | some n => simp [eq_comm]

theorem parse_eq_name {t : String} (h : ∀ id, ¬ WritesRef t id) : parse t = .name t := by
  cases ht : refOf? t with
  | none => rw [parse, ht]
  | some id => exact absurd (refOf?_eq_some_iff_writesRef.mp ht) (h id)

theorem parse_injective : Function.Injective parse :=
  Function.LeftInverse.injective (g := text) text_parse

/-! ## Numbers -/

theorem text_ofId (n : Int) : (ofId n).text = bracketed (toString n) := by
  unfold ofId
  split
  · rfl
  · obtain ⟨m, rfl⟩ := Int.eq_ofNat_of_zero_le (by omega : 0 ≤ n)
    rfl

theorem ofId_eq_parse {n : Int} (hn : n ≤ Decimal.maxInt) :
    ofId n = parse (bracketed (toString n)) := by
  rw [← text_ofId]
  exact (isWritten_ofId hn).symm

theorem ofId_of_neg {n : Int} (hn : n < 0) : ofId n = .name (bracketed (toString n)) := if_pos hn

/-- A text is read as a reference if it writes one, and otherwise stays a name. -/
theorem texts_read_exactly :
    (∀ t id, refOf? t = some id ↔ WritesRef t id) ∧
    (∀ t id, parse t = .ref id ↔ ∃ n : Nat, id = n ∧ WritesRef t n) ∧
    (∀ t, (∀ id, ¬ WritesRef t id) → parse t = .name t) ∧
    (∀ t, (parse t).text = t) ∧ Function.Injective parse ∧
    (∀ t, ofOwned t = parse t ∧ (SubjectPart.text t).resource = parse t ∧
      Object.ofText t .resource = some (.resource (parse t))) ∧
    (∀ n : Int, -(Decimal.maxInt + 1 : Int) ≤ n → n ≤ Decimal.maxInt →
      ofId n = parse ("[" ++ toString n ++ "]") ∧
      (n < 0 → ofId n = .name ("[" ++ toString n ++ "]")) ∧
      ∀ predicate object kind, Statement.new (ofId n) predicate object kind =
        Statement.new (parse ("[" ++ toString n ++ "]")) predicate object kind) ∧
    ∀ part : SubjectPart, part.IsWord → parse part.resource.text = part.resource := by
  refine ⟨fun t id => refOf?_eq_some_iff_writesRef, fun t id => parse_eq_ref_iff,
    fun t => parse_eq_name, text_parse, parse_injective, ?_, ?_,
    fun part => SubjectPart.isWritten_resource⟩
  · intro t
    exact ⟨ofOwned_eq_parse t, rfl, congrArg (some ∘ Object.resource) (ofOwned_eq_parse t)⟩
  · intro n _ hn
    have hparse : ofId n = parse ("[" ++ toString n ++ "]") := ofId_eq_parse hn
    refine ⟨hparse, ofId_of_neg, ?_⟩
    intro predicate object kind
    rw [hparse]

def nearMisses : List String :=
  ["[]", "[007]", "[-1]", "[+1]", "[\u0663]", "[9223372036854775808]", "[3", " [3]"]

theorem nearMisses_read :
    (∀ t ∈ nearMisses, parse t = .name t) ∧
    parse "[9223372036854775807]" = .ref 9223372036854775807 ∧
    ofId (-9223372036854775808) = parse "[-9223372036854775808]" ∧
    ofId (-9223372036854775808) = .name "[-9223372036854775808]" ∧
    Statement.new (ofId 7) "says" "[7]" .resource =
      Statement.new (parse "[7]") "says" "[7]" .resource ∧
    parse (SubjectPart.id (-3)).resource.text = (SubjectPart.id (-3)).resource := by
  obtain ⟨href, hparse, hname, -, -, -, hnumber, hpart⟩ := texts_read_exactly
  obtain ⟨hlowest, hlowestName, -⟩ := hnumber (-9223372036854775808) (by decide) (by decide)
  obtain ⟨-, -, hseven⟩ := hnumber 7 (by decide) (by decide)
  refine ⟨?_, ?_, hlowest, hlowestName (by decide), hseven "says" "[7]" .resource,
    hpart (.id (-3)) ⟨by decide, by decide⟩⟩
  · have hnone : ∀ t ∈ nearMisses, refOf? t = none := by decide
    intro t ht
    refine hname t fun id hid => ?_
    rw [← href, hnone t ht] at hid
    cases hid
  · rw [hparse]
    exact ⟨9223372036854775807, rfl, (href _ _).mp (by decide)⟩

end Resource

end TripleStore
