import TripleStore.Proofs.Comparisons

/-! # Membership in listed values -/

namespace TripleStore

/-- The term compared with each of the values in their order, however the `or`s are nested. -/
inductive Term.Chain (t : Term) : List Value → Expr → Prop
  | one (v : Value) : t.Chain [v] (t.equals (.scalar (.value v)))
  | or {vs ws : List Value} {a b : Expr} (ha : t.Chain vs a) (hb : t.Chain ws b) :
      t.Chain (vs ++ ws) (.or a b)

namespace Term

variable {t : Term} {vs ws : List Value} {e : Expr} {stored : List Statement} {s : Statement}

theorem sat_equals_value_iff {v : Value} :
    (t.equals (.scalar (.value v))).Sat stored s ↔ t.value? s = some v := by
  simp [equals, Expr.Sat, Scalar.value?, CompareOp.holds]

theorem sat_isIn_values_iff :
    (t.isIn (.values vs)).Sat stored s ↔ ∃ v ∈ vs, t.value? s = some v := Iff.rfl

theorem sat_isIn_values_congr (h : ∀ v, v ∈ vs ↔ v ∈ ws) :
    (t.isIn (.values vs)).Sat stored s ↔ (t.isIn (.values ws)).Sat stored s := by
  simp only [sat_isIn_values_iff, h]

theorem exists_chain (t : Term) (h : vs ≠ []) : ∃ e, t.Chain vs e := by
  induction vs with
  | nil => exact absurd rfl h
  | cons v vs ih =>
    by_cases hvs : vs = []
    · subst hvs
      exact ⟨_, .one v⟩
    · obtain ⟨e, he⟩ := ih hvs
      exact ⟨_, .or (.one v) he⟩

namespace Chain

theorem nested_eq_nil (h : t.Chain vs e) : e.nested = [] := by
  induction h with
  | one v => rfl
  | or _ _ iha ihb => rw [Expr.nested, iha, ihb, List.append_nil]

theorem sat_iff (h : t.Chain vs e) : e.Sat stored s ↔ (t.isIn (.values vs)).Sat stored s := by
  rw [sat_isIn_values_iff]
  induction h with
  | one v => simp [sat_equals_value_iff]
  | or _ _ iha ihb => simp only [Expr.Sat, iha, ihb, List.mem_append, or_and_right, exists_or]

end Chain

end Term

namespace Store

def Interchangeable (st : Store) (e e' : Expr) : Prop :=
  ∀ c : Context, (∀ s, st.test (c.fill e) s = st.test (c.fill e') s) ∧
    ∀ (β : Type) (p : Projection β),
      (st.select p (c.fill e)).outcome = (st.select p (c.fill e')).outcome

theorem interchangeable_of_sat_iff {st : Store} {e e' : Expr}
    (hsat : ∀ s, e.Sat st.toList s ↔ e'.Sat st.toList s) (hnested : e.nested = e'.nested) :
    st.Interchangeable e e' := by
  have hagree : e.Agree st.toList e' := ⟨fun s _ => hsat s, by rw [hnested]⟩
  intro c
  have hfill := c.agree_fill hagree
  refine ⟨fun s => ?_, fun β p => outcome_select_of_agree hfill p⟩
  rw [test_eq, test_eq, hfill.failure]
  simp only [c.sat_fill_iff hsat]

theorem test_eq_ok_true_iff {st : Store} {e : Expr} (h : e.nested = []) (s : Statement) :
    st.test e s = .ok true ↔ e.Sat st.toList s := by
  rw [test_eq_of_nested_eq_nil h, Except.ok.injEq, decide_eq_true_iff]

/-- In every place a list of values can be replaced by a chain of comparisons. -/
theorem membership_is_a_chain (st : Store) (t : Term) :
    (∀ vs s, st.test (t.isIn (.values vs)) s = .ok true ↔
      ∃ v ∈ vs, st.test (t.equals (.scalar (.value v))) s = .ok true) ∧
    (∀ s, st.test (t.isIn (.values [])) s = .ok false) ∧
    (∀ vs, vs ≠ [] → ∃ e, t.Chain vs e) ∧
    (∀ vs e, t.Chain vs e → st.Interchangeable (t.isIn (.values vs)) e) ∧
    ∀ vs ws : List Value, (∀ v, v ∈ vs ↔ v ∈ ws) →
      st.Interchangeable (t.isIn (.values vs)) (t.isIn (.values ws)) := by
  refine ⟨?_, ?_, fun vs => t.exists_chain, ?_, ?_⟩
  · intro vs s
    rw [test_eq_ok_true_iff rfl, Term.sat_isIn_values_iff]
    refine exists_congr fun v => and_congr_right fun _ => ?_
    rw [test_eq_ok_true_iff rfl, Term.sat_equals_value_iff]
  · intro s
    rw [test_eq_of_nested_eq_nil rfl]
    simp [Term.sat_isIn_values_iff]
  · intro vs e h
    exact interchangeable_of_sat_iff (fun s => h.sat_iff.symm) h.nested_eq_nil.symm
  · intro vs ws h
    exact interchangeable_of_sat_iff (fun s => Term.sat_isIn_values_congr h) rfl

def mixedValues : List Value := [.text "Topi", .int 6, .kind .literal]

def mixedRepeated : List Value := [.kind .literal, .text "Topi", .int 6, .text "Topi"]

theorem mixedValues_listed :
    let st := after marriages
    let topi : Statement := ⟨.name "Topi", "my:kids", some (.literal "6"), 0⟩
    let chain : Expr :=
      .or (Term.subject.against .eq (.text "Topi"))
        (.or (Term.subject.against .eq (.int 6)) (Term.subject.against .eq (.kind .literal)))
    let others := Context.saidOfOthers
    (mixedValues ≠ [] ∧ ∃ e, Term.subject.Chain mixedValues e) ∧
      (Value.text "Topi" ∈ mixedValues ∧
        st.test (Term.subject.equals (.scalar (.value (.text "Topi")))) topi = .ok true ∧
        st.test (Term.subject.isIn (.values mixedValues)) topi = .ok true) ∧
      (Term.subject.Chain mixedValues chain ∧
        (st.select .ids (others.fill (Term.subject.isIn (.values mixedValues)))).outcome =
          (st.select .ids (others.fill chain)).outcome) ∧
      (∀ v, v ∈ mixedValues ↔ v ∈ mixedRepeated) ∧
      (st.select .ids (others.fill (Term.subject.isIn (.values mixedValues)))).outcome = .ok [4] ∧
      (st.select .ids (others.fill (Term.subject.isIn (.values mixedRepeated)))).outcome =
        .ok [4] := by
  intro st topi chain others
  obtain ⟨hany, -, hexists, hchain, hlisted⟩ := membership_is_a_chain st .subject
  have hc : Term.subject.Chain mixedValues chain := .or (.one _) (.or (.one _) (.one _))
  have hsame : ∀ v, v ∈ mixedValues ↔ v ∈ mixedRepeated := by
    intro v
    simp only [mixedValues, mixedRepeated, List.mem_cons, List.not_mem_nil, or_false]
    tauto
  have hfour : (st.select .ids (others.fill (Term.subject.isIn (.values mixedValues)))).outcome =
      .ok [4] := by rfl
  have htopi : st.test (Term.subject.equals (.scalar (.value (.text "Topi")))) topi = .ok true := by
    rfl
  have hmem : Value.text "Topi" ∈ mixedValues := List.mem_cons_self
  refine ⟨⟨nofun, hexists mixedValues nofun⟩, ⟨hmem, htopi, (hany _ _).mpr ⟨_, hmem, htopi⟩⟩,
    ⟨hc, (hchain _ _ hc others).2 Int .ids⟩, hsame, hfour, ?_⟩
  rw [← (hlisted _ _ hsame others).2 Int .ids, hfour]

end Store

end TripleStore
