import TripleStore.Proofs.Trials

/-! # What raises an alarm -/

namespace TripleStore

/-- At this operation the select of `e` failed, and nothing else was found. -/
def Audit.ReportsFailure (before after : Audit) (operation : Nat) (e : Expr) (err : QueryError) :
    Prop :=
  ∃ v : Violation, after.violations = before.violations ++ [v] ∧ v.operation = operation ∧
    v.finding = .selectFailed e err ∧ v.finding.description = "Select failed" ∧
    v.finding.context = e.display ++ ": " ++ err.message

theorem Audit.reportsFailure_record (audit : Audit) (operation : Nat) (e : Expr)
    (err : QueryError) :
    audit.ReportsFailure (audit.record operation [.selectFailed e err]) operation e err :=
  ⟨⟨operation, .selectFailed e err⟩, rfl, rfl, rfl, rfl, rfl⟩

namespace Store

variable {st : Store} {a b e : Expr} {err : QueryError}

/-! ## Selects that fail -/

theorem idsOf_eq_error (h : st.selectIds e = .error err) :
    st.idsOf e = .error (.selectFailed e err) := by
  unfold selectIds at h
  rw [idsOf, h]
  rfl

theorem exists_resolve_of_selectIds {ids : List Int} (h : st.selectIds e = .ok ids) :
    ∃ r, (st.resolve e).outcome = .ok r := by
  rw [selectIds_eq] at h
  obtain ⟨r, hr, -⟩ := bind_eq_ok_iff.mp h
  exact ⟨r, hr⟩

theorem idsOf_everything (st : Store) : st.idsOf .everything = .ok (st.acceptedIds .everything) :=
  idsOf_eq_ok (selectIds_of_resolve rfl)

/-! ## The boolean laws -/

theorem checkAlgebra_of_left_error (ha : st.selectIds a = .error err) (b : Expr) :
    st.checkAlgebra a b = [.selectFailed a err] := by
  unfold checkAlgebra
  rw [idsOf_everything, idsOf_eq_error ha]
  rfl

theorem checkAlgebra_of_right_error {left : List Int} (ha : st.selectIds a = .ok left)
    (hb : st.selectIds b = .error err) : st.checkAlgebra a b = [.selectFailed b err] := by
  unfold checkAlgebra
  rw [idsOf_everything, idsOf_eq_ok ha, idsOf_eq_error hb]
  rfl

theorem checkAlgebra_of_ok (hd : st.Dense) {left right : List Int}
    (ha : st.selectIds a = .ok left) (hb : st.selectIds b = .ok right) :
    st.checkAlgebra a b = [] := by
  obtain ⟨ra, hra⟩ := exists_resolve_of_selectIds ha
  obtain ⟨rb, hrb⟩ := exists_resolve_of_selectIds hb
  exact checkAlgebra_eq_nil hd hra hrb

theorem failed_of_mem_checkAlgebra (hd : st.Dense) {finding : Finding}
    (h : finding ∈ st.checkAlgebra a b) :
    ∃ e err, (e = a ∨ e = b) ∧ st.selectIds e = .error err ∧ finding = .selectFailed e err := by
  cases ha : st.selectIds a with
  | error err =>
    rw [checkAlgebra_of_left_error ha, List.mem_singleton] at h
    exact ⟨a, err, .inl rfl, ha, h⟩
  | ok left =>
    cases hb : st.selectIds b with
    | error err =>
      rw [checkAlgebra_of_right_error ha hb, List.mem_singleton] at h
      exact ⟨b, err, .inr rfl, hb, h⟩
    | ok right =>
      rw [checkAlgebra_of_ok hd ha hb] at h
      cases h

/-- An audit reports selects that fail, and nothing else. -/
theorem only_failed_selects_alarm (changes : List Change) (audit : Audit) (operation : Nat) :
    let st := after changes
    audit.record operation st.checkDenseIds = audit ∧
    (∀ name, audit.record operation (st.checkPredicateScan name) = audit) ∧
    (st.FitsIds → ∀ s, audit.record operation
      ((st.add s).store.checkInsert s.isValid st.size (st.add s).answer) = audit) ∧
    ∀ a b,
      (∀ left right, st.selectIds a = .ok left → st.selectIds b = .ok right →
        audit.record operation (st.checkAlgebra a b) = audit) ∧
      (∀ err, st.selectIds a = .error err →
        audit.ReportsFailure (audit.record operation (st.checkAlgebra a b)) operation a err) ∧
      (∀ left err, st.selectIds a = .ok left → st.selectIds b = .error err →
        audit.ReportsFailure (audit.record operation (st.checkAlgebra a b)) operation b err) ∧
      ∀ finding ∈ st.checkAlgebra a b, ∃ e err, (e = a ∨ e = b) ∧
        st.selectIds e = .error err ∧ finding = .selectFailed e err := by
  intro st
  have hd : st.Dense := dense_after changes
  refine ⟨?_, ?_, ?_, ?_⟩
  · rw [checkDenseIds_eq_nil hd fun s => isValid_of_mem, Audit.record_nil]
  · intro name
    rw [checkPredicateScan_eq_nil, Audit.record_nil]
  · intro hfits s
    rw [checkInsert_add hfits, Audit.record_nil]
  · intro a b
    refine ⟨?_, ?_, ?_, fun finding => failed_of_mem_checkAlgebra hd⟩
    · intro left right ha hb
      rw [checkAlgebra_of_ok hd ha hb, Audit.record_nil]
    · intro err ha
      rw [checkAlgebra_of_left_error ha]
      exact audit.reportsFailure_record operation a err
    · intro left err ha hb
      rw [checkAlgebra_of_right_error ha hb]
      exact audit.reportsFailure_record operation b err

def ages : List Change :=
  [.add (.literal (.parse "Topi") "my:age" "49"), .add (.literal (.parse "") "my:age" "7"),
    .importText "literal\tAnna\tmy:age\told\nliteral\tLasse\n",
    .add (.literal (.parse "12") "my:age" "30")]

def ageAsSubject : Expr :=
  .inSelect (.parseInt .subject) (.parseInt .object) (Term.predicate.against .eq (.text "my:age"))

def subjectAsInteger : Expr := .inSelect .subject (.parseInt .subject) .everything

theorem ages_audited :
    let st := after ages
    let audit : Audit := ⟨[⟨2, .reported "late" "by hand"⟩]⟩
    let old : QueryError := ⟨1, .conversion "old" "integer"⟩
    let name : QueryError := ⟨0, .conversion "Topi" "integer"⟩
    st.FitsIds ∧ st.selectIds ageAsSubject = .error old ∧
      st.selectIds subjectAsInteger = .error name ∧ st.selectIds .everything = .ok [0, 1, 2] ∧
      audit.record 5 (st.checkPredicateScan "my:age") = audit ∧
      audit.record 5 ((st.add (.literal (.ofId 2) "is" "old")).store.checkInsert true 3 3) = audit ∧
      audit.record 5 (st.checkAlgebra .everything .everything) = audit ∧
      audit.ReportsFailure (audit.record 5 (st.checkAlgebra ageAsSubject subjectAsInteger)) 5
        ageAsSubject old ∧
      audit.ReportsFailure (audit.record 5 (st.checkAlgebra .everything subjectAsInteger)) 5
        subjectAsInteger name ∧
      (st.checkAlgebra ageAsSubject subjectAsInteger).map Finding.context =
        ["parse_int(subject) in select(parse_int(object), predicate == \"my:age\"): " ++
          "statement 1: cannot convert 'old' to integer"] ∧
      (st.checkAlgebra .everything subjectAsInteger).map Finding.context =
        ["subject in select(parse_int(subject), *): " ++
          "statement 0: cannot convert 'Topi' to integer"] := by
  intro st audit old name
  have hsize : st.size = 3 := rfl
  have hfits : st.FitsIds := by
    rw [FitsIds, hsize]
    decide
  have hage : st.selectIds ageAsSubject = .error old := rfl
  have hname : st.selectIds subjectAsInteger = .error name := rfl
  have hall : st.selectIds .everything = .ok [0, 1, 2] := rfl
  obtain ⟨-, hscan, hinsert, hlaws⟩ := only_failed_selects_alarm ages audit 5
  refine ⟨hfits, hage, hname, hall, hscan "my:age", hinsert hfits _, ?_, ?_, ?_,
    by decide +kernel, by decide +kernel⟩
  · exact (hlaws .everything .everything).1 [0, 1, 2] [0, 1, 2] hall hall
  · exact (hlaws ageAsSubject subjectAsInteger).2.1 old hage
  · exact (hlaws .everything subjectAsInteger).2.2.1 [0, 1, 2] name hall hname

end Store

end TripleStore
