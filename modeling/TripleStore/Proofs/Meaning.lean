import TripleStore.Proofs.Changes
import TripleStore.Proofs.Outcome

/-!
# The meaning of an expression

A nested select is answered here for each statement anew, by looking for a stored one. A resolved
expression has all its sets made before the scan.
-/

namespace TripleStore

namespace Expr

/-- The expression holds of a statement, stored or not. -/
def Sat (stored : List Statement) : Expr → Statement → Prop
  | everything, _ => True
  | compare t op rhs, s => ∃ a b, t.value? s = some a ∧ rhs.value? s = some b ∧ op.holds a b
  | inValues t values, s => ∃ v ∈ values, t.value? s = some v
  | inSelect t projection filter, s =>
    ∃ s' ∈ stored, filter.Sat stored s' ∧
      ∃ v, projection.value? s' = some v ∧ t.value? s = some v
  | and a b, s => a.Sat stored s ∧ b.Sat stored s
  | or a b, s => a.Sat stored s ∨ b.Sat stored s
  | not a, s => ¬ a.Sat stored s

theorem any_any_iff {α : Type} (x y : Option α) (r : α → α → Bool) :
    (x.any fun a => y.any fun b => r a b) = true ↔ ∃ a b, x = some a ∧ y = some b ∧ r a b := by
  cases x <;> cases y <;> simp

instance decidableSat (stored : List Statement) :
    (e : Expr) → (s : Statement) → Decidable (e.Sat stored s)
  | everything, _ => isTrue trivial
  | compare t op rhs, s => decidable_of_iff _ (any_any_iff (t.value? s) (rhs.value? s) op.holds)
  | inValues t values, s => inferInstanceAs (Decidable (∃ v ∈ values, t.value? s = some v))
  | inSelect t projection filter, s =>
    have : DecidablePred (filter.Sat stored) := decidableSat stored filter
    decidable_of_iff
      (∃ s' ∈ stored, filter.Sat stored s' ∧
        (projection.value? s').any fun v => t.value? s = some v)
      (by simp [Sat, Option.any_eq_true])
  | and a b, s => @instDecidableAnd _ _ (decidableSat stored a s) (decidableSat stored b s)
  | or a b, s => @instDecidableOr _ _ (decidableSat stored a s) (decidableSat stored b s)
  | not a, s => @instDecidableNot _ (decidableSat stored a s)

def matchesIn (stored : List Statement) (e : Expr) : List Statement :=
  stored.filter fun s => e.Sat stored s

theorem mem_matchesIn {stored : List Statement} {e : Expr} {s : Statement} :
    s ∈ e.matchesIn stored ↔ s ∈ stored ∧ e.Sat stored s := by
  simp [matchesIn]

end Expr

namespace Store

variable {st : Store} {e : Expr} {r : Resolved} {β : Type}

/-! ## Resolved expressions -/

theorem accepts_iff_sat (h : (st.resolve e).outcome = .ok r) (s : Statement) :
    r.accepts s = true ↔ e.Sat st.toList s := by
  induction e generalizing r s with
  | everything =>
    obtain rfl : Resolved.everything = r := Except.ok.inj h
    simp [Resolved.accepts, Expr.Sat]
  | compare t op rhs =>
    obtain rfl : Resolved.compare t op rhs = r := Except.ok.inj h
    rw [Resolved.accepts, Expr.Sat]
    cases t.value? s <;> cases rhs.value? s <;> simp
  | inValues t values =>
    obtain rfl : Resolved.memberOf t (.of values) = r := Except.ok.inj h
    rw [Resolved.accepts, Expr.Sat]
    cases t.value? s <;> simp [eq_comm]
  | inSelect t projection filter ih =>
    rw [outcome_resolve_inSelect] at h
    obtain ⟨r', hr', h⟩ := bind_eq_ok_iff.mp h
    obtain ⟨values, hvalues, h⟩ := bind_eq_ok_iff.mp h
    obtain rfl : Resolved.memberOf t (.of values) = r := Except.ok.inj h
    have hmem (v : Value) : v ∈ values ↔
        ∃ s' ∈ st.toList, filter.Sat st.toList s' ∧ projection.value? s' = some v := by
      rw [mem_of_mapM_eq_ok hvalues]
      simp only [accepted, List.mem_filter, ih hr', Term.project_eq_ok_iff, and_assoc]
    rw [Resolved.accepts, Expr.Sat]
    cases ht : t.value? s with
    | none => simp
    | some v => simp [hmem, eq_comm]
  | and a b iha ihb =>
    rw [outcome_resolve_and] at h
    obtain ⟨ra, rb, ha, hb, rfl⟩ := both_eq_ok_iff.mp h
    rw [Resolved.accepts, Expr.Sat, Bool.and_eq_true, iha ha, ihb hb]
  | or a b iha ihb =>
    rw [outcome_resolve_or] at h
    obtain ⟨ra, rb, ha, hb, rfl⟩ := both_eq_ok_iff.mp h
    rw [Resolved.accepts, Expr.Sat, Bool.or_eq_true, iha ha, ihb hb]
  | not a ih =>
    rw [outcome_resolve_not] at h
    obtain ⟨ra, ha, rfl⟩ := map_eq_ok_iff.mp h
    rw [Resolved.accepts, Expr.Sat, Bool.not_eq_true', ← Bool.not_eq_true, ih ha]

theorem accepts_eq_decide_sat (h : (st.resolve e).outcome = .ok r) (s : Statement) :
    r.accepts s = decide (e.Sat st.toList s) := by
  rw [Bool.eq_iff_iff, accepts_iff_sat h, decide_eq_true_iff]

theorem accepted_eq_matchesIn (h : (st.resolve e).outcome = .ok r) :
    st.accepted r = e.matchesIn st.toList := by
  unfold accepted Expr.matchesIn
  exact List.filter_congr fun s _ => accepts_eq_decide_sat h s

theorem outcome_select_of_resolve (h : (st.resolve e).outcome = .ok r) (p : Projection β) :
    (st.select p e).outcome = (e.matchesIn st.toList).mapM p := by
  rw [outcome_select, h, ← accepted_eq_matchesIn h]
  rfl

/-- Making the sets first changes no answer of a statement, a match, a count or a select. -/
theorem resolved_answers_as_sat (changes : List Change)
    (h : ((after changes).resolve e).outcome = .ok r) :
    let st := after changes
    let found := e.matchesIn st.toList
    (∀ s, r.accepts s = decide (e.Sat st.toList s)) ∧
      (st.matching e).outcome = .ok found ∧
      found.Pairwise (fun s s' => s.id < s'.id) ∧
      (st.count e).outcome = .ok found.length ∧
      ∀ (β : Type) (p : Projection β) (vs : List β),
        (st.select p e).outcome = .ok vs ↔ found.map p = vs.map .ok := by
  intro st found
  have hfound : st.accepted r = found := accepted_eq_matchesIn h
  refine ⟨accepts_eq_decide_sat h, ?_, ?_, ?_, ?_⟩
  · rw [outcome_matching, h, ← hfound]
    rfl
  · exact (dense_after changes).pairwise_id_lt.filter _
  · rw [outcome_count, h, ← hfound]
    rfl
  · intro β p vs
    rw [outcome_select_of_resolve h, mapM_eq_ok_iff]

def marriages : List Change :=
  [.add (.literal (.parse "Topi") "my:kids" "6"),
    .add (.resource (.parse "Topi") "my:wife" "Anna"),
    .add (.resource (.parse "Olli") "my:wife" "Johanna"),
    .add (.literal (.ofId 1) "my:evaluation" "true"),
    .add (.literal (.ofId 2) "my:evaluation" "true")]

def wives : Expr := Term.predicate.against .eq (.text "my:wife")

def ofTopi : Expr := Term.subject.against .eq (.text "Topi")

/-- Not every statement says who is married to whom, so the nested select fails. -/
def ofMarried : Expr := .inSelect .subject (.attributeOf "my:wife") .everything

def largeFamilies : Expr :=
  .and (Term.predicate.against .eq (.text "my:wife"))
    (.inSelect .subject .subject
      ((Term.parseInt (.attributeOf "my:kids")).against .gt (.int 5)))

def verdicts : Expr :=
  .and (.inSelect (.reifiedId .subject) .statementId largeFamilies)
    (.not ((Term.parseInt .object).against .gt (.int 0)))

theorem verdicts_answered :
    ((after marriages).resolve verdicts).outcome =
        .ok (.and (.memberOf (.reifiedId .subject) (.of [.int 1]))
          (.not (.compare (.parseInt .object) .gt (.value (.int 0))))) ∧
      ((after marriages).count verdicts).outcome = .ok 1 ∧
      ((after marriages).select Term.object.project verdicts).outcome = .ok [.text "true"] := by
  have h : ((after marriages).resolve verdicts).outcome =
      .ok (.and (.memberOf (.reifiedId .subject) (.of [.int 1]))
        (.not (.compare (.parseInt .object) .gt (.value (.int 0))))) := by rfl
  obtain ⟨-, -, -, hcount, hselect⟩ := resolved_answers_as_sat marriages h
  exact ⟨h, hcount, (hselect Value Term.object.project [.text "true"]).mpr rfl⟩

end Store

end TripleStore
