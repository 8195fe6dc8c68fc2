import TripleStore.Proofs.Combinations
import TripleStore.Proofs.Failures
import TripleStore.Proofs.Written

/-! # Joins on references -/

namespace TripleStore

/-! ## The id that a subject refers to -/

namespace Term

theorem value?_reifiedId_subject (s : Statement) :
    (reifiedId subject).value? s =
      some (.int (((Resource.refOf? s.subjectText).map Int.ofNat).getD notReified)) := by
  have heval : (reifiedId subject).eval s = Value.readRef (.text s.subjectText) := rfl
  rw [value?, heval]
  cases h : Resource.refOf? s.subjectText <;> simp [Value.readRef, h, Except.toOption]

theorem value?_reifiedId_of_isWritten {s : Statement} (hs : s.subject.IsWritten) :
    (reifiedId subject).value? s = some (.int (s.subject.refId?.getD notReified)) := by
  rw [value?_reifiedId_subject, ← hs.refOf?_text]
  rfl

end Term

/-- The statements that matches of `f` have as their subjects. -/
def Expr.subjectsOf (f : Expr) : Expr :=
  Term.statementId.isIn (.select (.reifiedId .subject) f)

namespace Store

variable {st : Store} {f : Expr}

theorem exists_resolve_subjectsOf {r : Resolved} (hf : (st.resolve f).outcome = .ok r) :
    ∃ r', (st.resolve f.subjectsOf).outcome = .ok r' := by
  refine exists_resolve_inSelect (fun s _ => ?_) hf .statementId
  rw [Term.value?_reifiedId_subject]
  exact Option.some_ne_none _

/-- A name gives the sentinel, which is the id of no statement. -/
theorem sat_subjectsOf_iff (hw : ∀ s ∈ st.toList, s.subject.IsWritten) {s : Statement}
    (hs : 0 ≤ s.id) :
    f.subjectsOf.Sat st.toList s ↔
      ∃ id : Nat, s.id = id ∧ ∃ s' ∈ f.matchesIn st.toList, s'.subject = .ref id := by
  have hjoin : ∀ s' ∈ st.toList,
      (∃ v, (Term.reifiedId .subject).value? s' = some v ∧
        Term.statementId.value? s = some v) ↔ ∃ id : Nat, s.id = id ∧ s'.subject = .ref id := by
    intro s' hs'
    have hid : Term.statementId.value? s = some (.int s.id) := rfl
    rw [Term.value?_reifiedId_of_isWritten (hw s' hs'), hid]
    cases hsubject : s'.subject with
    | name t =>
      simp [Resource.refId?, notReified]
      omega
    | ref id =>
      simp only [Resource.refId?, Option.getD_some, Option.some.injEq, Value.int.injEq,
        Resource.ref.injEq, exists_eq_left']
      constructor
      · rintro rfl
        obtain ⟨n, hn⟩ := Int.eq_ofNat_of_zero_le hs
        exact ⟨n, hn, hn⟩
      · rintro ⟨n, hn, rfl⟩
        exact hn
  simp only [Expr.subjectsOf, Term.isIn, Expr.Sat, Expr.mem_matchesIn]
  constructor
  · rintro ⟨s', hs', hsat, hv⟩
    obtain ⟨id, hid, hsubject⟩ := (hjoin s' hs').mp hv
    exact ⟨id, hid, s', ⟨hs', hsat⟩, hsubject⟩
  · rintro ⟨id, hid, s', ⟨hs', hsat⟩, hsubject⟩
    exact ⟨s', hs', hsat, (hjoin s' hs').mpr ⟨id, hid, hsubject⟩⟩

/-- The join selects the stored ids to which the subject of a match refers. -/
theorem selectIds_subjectsOf (changes : List Change)
    (hb : ∀ s, Change.add s ∈ changes → s.IsWordBuilt) {r : Resolved}
    (hf : ((after changes).resolve f).outcome = .ok r) :
    let st := after changes
    (∃ ids, st.selectIds f.subjectsOf = .ok ids ∧
      Lists ids fun n => ∃ id : Nat, n = id ∧ id < st.size ∧
        ∃ s ∈ f.matchesIn st.toList, s.subject = .ref id) ∧
    (∀ s ∈ st.toList, ∀ text, s.subject = .name text →
      (Term.reifiedId .subject).value? s = some (.int (-1))) ∧
    ∀ s ∈ st.toList, (∀ id : Nat, id < st.size → s.subject ≠ .ref id) →
      ∀ s' ∈ st.toList, (Term.reifiedId .subject).value? s ≠ Term.statementId.value? s' := by
  intro st
  have hd : st.Dense := dense_after changes
  have hw : ∀ s ∈ st.toList, s.subject.IsWritten := fun s hs =>
    (isWordBuilt_of_mem hb hs).isWritten_subject
  have hwithin : ∀ s ∈ st.toList, 0 ≤ s.id ∧ s.id < st.size := by
    intro s hs
    rw [← isSome_get?_iff, hd.get?_id hs]
    rfl
  refine ⟨?_, ?_, ?_⟩
  · obtain ⟨r', hr'⟩ := exists_resolve_subjectsOf hf
    refine ⟨st.acceptedIds r', by rw [selectIds_eq, hr']; rfl, pairwise_acceptedIds hd r', ?_⟩
    intro n
    simp only [mem_acceptedIds_iff hd, accepts_iff_sat hr']
    constructor
    · rintro ⟨s, hget, hsat⟩
      obtain ⟨hs, rfl⟩ := hd.of_get? hget
      obtain ⟨id, hid, hmatch⟩ := (sat_subjectsOf_iff hw (hwithin s hs).1).mp hsat
      have hlt := (hwithin s hs).2
      exact ⟨id, hid, by omega, hmatch⟩
    · rintro ⟨id, rfl, hlt, hmatch⟩
      obtain ⟨s, hget⟩ : ∃ s, st.get? id = some s := by
        rw [← Option.isSome_iff_exists, isSome_get?_iff]
        omega
      obtain ⟨hs, hid⟩ := hd.of_get? hget
      exact ⟨s, hget, (sat_subjectsOf_iff hw (hwithin s hs).1).mpr ⟨id, hid, hmatch⟩⟩
  · intro s hs text htext
    rw [Term.value?_reifiedId_of_isWritten (hw s hs), htext]
    rfl
  · intro s hs hdangling s' hs' heq
    have hid : Term.statementId.value? s' = some (.int s'.id) := rfl
    rw [Term.value?_reifiedId_of_isWritten (hw s hs), hid] at heq
    have hwithin := hwithin s' hs'
    cases hsubject : s.subject with
    | name t =>
      simp [hsubject, Resource.refId?, notReified] at heq
      omega
    | ref id =>
      simp only [hsubject, Resource.refId?, Option.getD_some, Option.some.injEq,
        Value.int.injEq] at heq
      obtain ⟨n, rfl⟩ := Int.eq_ofNat_of_zero_le (by omega : 0 ≤ id)
      exact hdangling n (by omega) hsubject

def remarks : List Change :=
  [.add (.literal (.parse "a") "p" "o"), .add (.literal (.ofId 0) "says" "yes"),
    .add (.literal (.parse "[007]") "says" "yes"), .add (.literal (.ofId (-1)) "says" "yes"),
    .add (.literal (.parse "[9]") "says" "yes"),
    .importText "literal\t[9223372036854775808]\tsays\tyes\nliteral\t[2]\tsays\tyes\n"]

def said : Expr := Term.predicate.against .eq (.text "says")

theorem remarks_joined :
    (∀ s, Change.add s ∈ remarks → s.IsWordBuilt) ∧
      ((after remarks).resolve said).outcome =
        .ok (.compare .predicate .eq (.value (.text "says"))) ∧
      (after remarks).selectIds said.subjectsOf = .ok [0, 2] ∧
      Lists [0, 2] fun n => ∃ id : Nat, n = id ∧ id < (after remarks).size ∧
        ∃ s ∈ said.matchesIn (after remarks).toList, s.subject = .ref id := by
  have hb : ∀ s, Change.add s ∈ remarks → s.IsWordBuilt := by
    intro s hs
    simp only [remarks, List.mem_cons, Change.add.injEq, reduceCtorEq, List.not_mem_nil,
      or_false] at hs
    rcases hs with rfl | rfl | rfl | rfl | rfl
    · exact ⟨.text "a", "p", "o", .literal, unassigned, trivial, rfl⟩
    · exact ⟨.id 0, "says", "yes", .literal, unassigned, ⟨by decide, by decide⟩, rfl⟩
    · exact ⟨.text "[007]", "says", "yes", .literal, unassigned, trivial, rfl⟩
    · exact ⟨.id (-1), "says", "yes", .literal, unassigned, ⟨by decide, by decide⟩, rfl⟩
    · exact ⟨.text "[9]", "says", "yes", .literal, unassigned, trivial, rfl⟩
  have hf : ((after remarks).resolve said).outcome =
      .ok (.compare .predicate .eq (.value (.text "says"))) := rfl
  obtain ⟨⟨ids, hids, hlists⟩, -, -⟩ := selectIds_subjectsOf remarks hb hf
  have hsel : (after remarks).selectIds said.subjectsOf = .ok [0, 2] := by rfl
  obtain rfl : ids = [0, 2] := Except.ok.inj (hids.symm.trans hsel)
  exact ⟨hb, hf, hsel, hlists⟩

end Store

end TripleStore
