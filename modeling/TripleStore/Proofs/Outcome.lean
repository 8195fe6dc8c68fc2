import Mathlib.Data.List.Basic
import TripleStore.Select

/-! # Outcomes of selects -/

namespace TripleStore

variable {ε α β : Type}

@[simp] theorem mapError_ok {ε' : Type} (f : ε → ε') (a : α) :
    (Except.ok a : Except ε α).mapError f = .ok a := rfl

@[simp] theorem mapError_error {ε' : Type} (f : ε → ε') (e : ε) :
    (Except.error e : Except ε α).mapError f = .error (f e) := rfl

theorem bind_eq_ok_iff {x : Except ε α} {f : α → Except ε β} {b : β} :
    (x >>= f) = .ok b ↔ ∃ a, x = .ok a ∧ f a = .ok b := by
  cases x <;> simp [bind, Except.bind]

theorem bind_eq_error_iff {x : Except ε α} {f : α → Except ε β} {e : ε} :
    (x >>= f) = .error e ↔ x = .error e ∨ ∃ a, x = .ok a ∧ f a = .error e := by
  cases x <;> simp [bind, Except.bind]

theorem map_eq_ok_iff {x : Except ε α} {f : α → β} {b : β} :
    (do return f (← x)) = Except.ok b ↔ ∃ a, x = .ok a ∧ f a = b := by
  cases x <;> simp [bind, Except.bind, pure, Except.pure]

theorem both_eq_ok_iff {γ : Type} {x : Except ε α} {y : Except ε β} {f : α → β → γ} {c : γ} :
    (do return f (← x) (← y)) = Except.ok c ↔ ∃ a b, x = .ok a ∧ y = .ok b ∧ f a b = c := by
  cases x <;> cases y <;> simp [bind, Except.bind, pure, Except.pure]

/-! ## Projecting a list -/

theorem mapM_eq_ok_iff {f : α → Except ε β} {l : List α} {vs : List β} :
    l.mapM f = .ok vs ↔ l.map f = vs.map .ok := by
  induction l generalizing vs with
  | nil => cases vs <;> simp [pure, Except.pure]
  | cons a l ih =>
    have hcons : (a :: l).mapM f = .ok vs ↔
        ∃ v, f a = .ok v ∧ ∃ ws, l.mapM f = .ok ws ∧ v :: ws = vs := by
      rw [List.mapM_cons, bind_eq_ok_iff]
      simp only [bind_eq_ok_iff, pure, Except.pure, Except.ok.injEq]
    rw [hcons]
    cases vs with
    | nil => simp
    | cons w ws => simp [ih]

theorem mem_of_mapM_eq_ok {f : α → Except ε β} {l : List α} {vs : List β}
    (h : l.mapM f = .ok vs) (v : β) : v ∈ vs ↔ ∃ a ∈ l, f a = .ok v := by
  rw [← List.mem_map, mapM_eq_ok_iff.mp h]
  simp

def failure? : Except ε α → Option ε
  | .ok _ => none
  | .error e => some e

theorem failure?_eq_some_iff {x : Except ε α} {e : ε} : failure? x = some e ↔ x = .error e := by
  cases x <;> simp [failure?]

theorem failure?_eq_none_iff {x : Except ε α} : failure? x = none ↔ ∃ a, x = .ok a := by
  cases x <;> simp [failure?]

theorem failure?_mapM (f : α → Except ε β) (l : List α) :
    failure? (l.mapM f) = l.findSome? fun a => failure? (f a) := by
  induction l with
  | nil => rfl
  | cons a l ih =>
    rw [List.mapM_cons, List.findSome?_cons]
    cases f a with
    | error e => rfl
    | ok v =>
      have hok : failure? (Except.ok v : Except ε β) = none := rfl
      rw [hok, ← ih]
      cases l.mapM f <;> rfl

theorem failure?_both {γ : Type} (x : Except ε α) (y : Except ε β) (f : α → β → γ) :
    failure? (do return f (← x) (← y)) = (failure? x).or (failure? y) := by
  cases x <;> cases y <;> rfl

/-! ## The value of a term -/

namespace Term

theorem project_eq_ok_iff {t : Term} {s : Statement} {v : Value} :
    t.project s = .ok v ↔ t.value? s = some v := by
  unfold project value?
  cases t.eval s <;> simp [Except.toOption]

theorem typed_eq_ok_iff [FromValue β] {t : Term} {s : Statement} {x : β} :
    t.typed β s = .ok x ↔ ∃ v, t.value? s = some v ∧ FromValue.ofValue? v = some x := by
  unfold typed
  rw [bind_eq_ok_iff]
  simp only [project_eq_ok_iff]
  refine exists_congr fun v => and_congr_right fun _ => ?_
  split <;> simp_all

theorem failure?_project_eq_none_iff {t : Term} {s : Statement} :
    failure? (t.project s) = none ↔ t.value? s ≠ none := by
  simp only [failure?_eq_none_iff, project_eq_ok_iff, Option.ne_none_iff_exists']

end Term

/-! ## One equation for each question -/

namespace Store

variable (st : Store) (a b filter e : Expr) (t projection : Term) (p : Projection β)

theorem outcome_resolve_inSelect :
    (st.resolve (.inSelect t projection filter)).outcome = do
      let r ← (st.resolve filter).outcome
      let values ← st.rows projection.project r
      return .memberOf t (.of values) := by
  simp only [resolve, scan, Traced.outcome_bind, Traced.outcome_lift, Traced.outcome_emit,
    Traced.outcome_pure, bind_assoc]
  rfl

theorem outcome_resolve_and :
    (st.resolve (.and a b)).outcome = do
      return .and (← (st.resolve a).outcome) (← (st.resolve b).outcome) := by
  simp only [resolve, Traced.outcome_bind, Traced.outcome_pure]
  rfl

theorem outcome_resolve_or :
    (st.resolve (.or a b)).outcome = do
      return .or (← (st.resolve a).outcome) (← (st.resolve b).outcome) := by
  simp only [resolve, Traced.outcome_bind, Traced.outcome_pure]
  rfl

theorem outcome_resolve_not :
    (st.resolve (.not a)).outcome = do return .not (← (st.resolve a).outcome) := by
  simp only [resolve, Traced.outcome_bind, Traced.outcome_pure]
  rfl

theorem outcome_select :
    (st.select p e).outcome = (st.resolve e).outcome >>= st.rows p := by
  have hscan (r : Resolved) : (st.scan p e r).outcome = st.rows p r := by
    simp only [scan, Traced.outcome_bind, Traced.outcome_lift, Traced.outcome_emit,
      Traced.outcome_pure]
    cases st.rows p r <;> rfl
  simp only [select, Traced.outcome_bind, hscan]

theorem accepted_predicate (name : String) :
    st.accepted (.compare .predicate .eq (.value (.text name))) =
      st.toList.filter fun s => s.predicate = name := by
  refine List.filter_congr fun s _ => ?_
  simp [Resolved.accepts, Term.value?, Term.eval, Except.toOption, Scalar.value?, CompareOp.holds]

theorem outcome_matching :
    (st.matching e).outcome = do return st.accepted (← (st.resolve e).outcome) := by
  simp only [matching, Traced.outcome_bind, Traced.outcome_pure]
  rfl

theorem outcome_count :
    (st.count e).outcome = do return (st.accepted (← (st.resolve e).outcome)).length := by
  simp only [count, Traced.outcome_bind, Traced.outcome_pure, accepted,
    List.countP_eq_length_filter]
  rfl

end Store

end TripleStore
