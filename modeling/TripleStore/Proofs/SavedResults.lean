import TripleStore.Proofs.Failures

/-! # Saved results -/

namespace TripleStore

variable {β γ : Type}

/-! ## Results as sets -/

namespace SetOperand

def ofTexts (texts : List String) : SetOperand := .values (texts.map .text)

def ofInts (ints : List Int) : SetOperand := .values (ints.map .int)

end SetOperand

def Relisted (vs ws : List Value) : Prop := ∀ v, v ∈ ws ↔ v ∈ vs

theorem Relisted.refl (vs : List Value) : Relisted vs vs := fun _ => Iff.rfl

/-- The set is what a select gave: values of any type, or all of them as texts or as integers. -/
inductive IsResult (st : Store) (projection : Term) (filter : Expr) : SetOperand → Prop
  | values {vs ws : List Value} (h : (st.select projection.project filter).outcome = .ok vs)
      (hws : Relisted vs ws) : IsResult st projection filter (.values ws)
  | texts {ts : List String} (h : (st.select (projection.typed String) filter).outcome = .ok ts) :
      IsResult st projection filter (.ofTexts ts)
  | ints {ns : List Int} (h : (st.select (projection.typed Int) filter).outcome = .ok ns) :
      IsResult st projection filter (.ofInts ns)

/-- The second expression is the first with any of its nested selects replaced by their results. -/
inductive Answered (st : Store) : Expr → Expr → Prop
  | everything : Answered st .everything .everything
  | compare (t : Term) (op : CompareOp) (rhs : Scalar) :
      Answered st (.compare t op rhs) (.compare t op rhs)
  | inValues (t : Term) {vs ws : List Value} (h : Relisted vs ws) :
      Answered st (.inValues t vs) (.inValues t ws)
  | kept (t projection : Term) {filter filter' : Expr} (h : Answered st filter filter') :
      Answered st (.inSelect t projection filter) (.inSelect t projection filter')
  | replaced (t : Term) {projection : Term} {filter : Expr} {set : SetOperand}
      (h : IsResult st projection filter set) :
      Answered st (.inSelect t projection filter) (t.isIn set)
  | and {a a' b b' : Expr} (ha : Answered st a a') (hb : Answered st b b') :
      Answered st (.and a b) (.and a' b')
  | or {a a' b b' : Expr} (ha : Answered st a a') (hb : Answered st b b') :
      Answered st (.or a b) (.or a' b')
  | not {a a' : Expr} (ha : Answered st a a') : Answered st (.not a) (.not a')

/-! ## Typed results -/

theorem Term.project_eq_ok_of_typed [FromValue β] {make : β → Value}
    (hmake : ∀ v x, FromValue.ofValue? v = some x → v = make x) {t : Term} {s : Statement} {x : β}
    (h : t.typed β s = .ok x) : t.project s = .ok (make x) := by
  obtain ⟨v, hv, hx⟩ := typed_eq_ok_iff.mp h
  rw [project_eq_ok_iff, hv, hmake v x hx]

namespace Store

variable {st : Store} {e e' : Expr}

theorem outcome_select_map {p : Projection β} {q : Projection γ} {f : β → γ}
    (hpq : ∀ s x, p s = .ok x → q s = .ok (f x)) {xs : List β}
    (h : (st.select p e).outcome = .ok xs) : (st.select q e).outcome = .ok (xs.map f) := by
  rw [outcome_select_eq_ok_iff] at h ⊢
  obtain ⟨hok, hmap⟩ := h
  refine ⟨hok, ?_⟩
  apply List.ext_getElem?
  intro n
  have hn := congrArg (fun l => l[n]?) hmap
  simp only [List.getElem?_map] at hn ⊢
  cases hs : (e.matchesIn st.toList)[n]? <;> cases hx : xs[n]? <;> simp_all

theorem exists_values_of_isResult {projection : Term} {set : SetOperand}
    (h : IsResult st projection e set) :
    ∃ vs ws, set = .values ws ∧ Relisted vs ws ∧
      (st.select projection.project e).outcome = .ok vs := by
  cases h with
  | values h hws => exact ⟨_, _, rfl, hws, h⟩
  | texts h =>
    have hmake : ∀ v x, FromValue.ofValue? v = some x → v = Value.text x := by
      intro v x hv
      cases v <;> simp_all [FromValue.ofValue?, Value.text?]
    exact ⟨_, _, rfl, .refl _, outcome_select_map (fun s x => Term.project_eq_ok_of_typed hmake) h⟩
  | ints h =>
    have hmake : ∀ v x, FromValue.ofValue? v = some x → v = Value.int x := by
      intro v x hv
      cases v <;> simp_all [FromValue.ofValue?, Value.int?]
    exact ⟨_, _, rfl, .refl _, outcome_select_map (fun s x => Term.project_eq_ok_of_typed hmake) h⟩

/-! ## Replacing nested selects -/

theorem outcome_resolve_inSelect_of_ok (t : Term) {projection : Term} {vs : List Value}
    (h : (st.select projection.project e).outcome = .ok vs) :
    (st.resolve (.inSelect t projection e)).outcome = .ok (.memberOf t (.of vs)) := by
  rw [resolve_inSelect, Traced.bind_of_ok h]
  rfl

theorem outcome_resolve_inValues (st : Store) (t : Term) {vs ws : List Value} (h : Relisted vs ws) :
    (st.resolve (.inValues t ws)).outcome = .ok (.memberOf t (.of vs)) := by
  rw [← ValueSet.of_eq_of_iff.mpr h]
  rfl

theorem outcome_resolve_of_answered (h : Answered st e e') :
    (st.resolve e').outcome = (st.resolve e).outcome := by
  induction h with
  | everything | compare => rfl
  | inValues t h => exact outcome_resolve_inValues st t h
  | kept t projection _ ih => rw [outcome_resolve_inSelect, outcome_resolve_inSelect, ih]
  | replaced t h =>
    obtain ⟨vs, ws, rfl, hws, hvs⟩ := exists_values_of_isResult h
    rw [outcome_resolve_inSelect_of_ok t hvs]
    exact outcome_resolve_inValues st t hws
  | and _ _ iha ihb => rw [outcome_resolve_and, outcome_resolve_and, iha, ihb]
  | or _ _ iha ihb => rw [outcome_resolve_or, outcome_resolve_or, iha, ihb]
  | not _ ih => rw [outcome_resolve_not, outcome_resolve_not, ih]

theorem outcome_select_of_answered (h : Answered st e e') (p : Projection β) :
    (st.select p e').outcome = (st.select p e).outcome := by
  rw [outcome_select, outcome_select, outcome_resolve_of_answered h]

/-! ## Replacing every set -/

theorem nested_toExpr (r : Resolved) : r.toExpr.nested = [] := by
  induction r with
  | everything | compare | memberOf => rfl
  | and a b iha ihb | or a b iha ihb => simp [Resolved.toExpr, Expr.nested, iha, ihb]
  | not a ih => exact ih

theorem relisted_toList (vs : List Value) : Relisted vs (ValueSet.of vs).toList := by
  intro v
  rw [Std.ExtTreeSet.mem_toList, ← Std.ExtTreeSet.contains_iff_mem, ValueSet.contains_of,
    decide_eq_true_eq]

theorem answered_toExpr {r : Resolved} (h : (st.resolve e).outcome = .ok r) :
    Answered st e r.toExpr := by
  induction e generalizing r with
  | everything =>
    obtain rfl : Resolved.everything = r := Except.ok.inj h
    exact .everything
  | compare t op rhs =>
    obtain rfl : Resolved.compare t op rhs = r := Except.ok.inj h
    exact .compare t op rhs
  | inValues t vs =>
    obtain rfl : Resolved.memberOf t (.of vs) = r := Except.ok.inj h
    exact .inValues t (relisted_toList vs)
  | inSelect t projection filter =>
    rw [resolve_inSelect, Traced.outcome_bind] at h
    obtain ⟨vs, hvs, h⟩ := bind_eq_ok_iff.mp h
    obtain rfl : Resolved.memberOf t (.of vs) = r := Except.ok.inj h
    exact .replaced t (.values hvs (relisted_toList vs))
  | and a b iha ihb =>
    rw [outcome_resolve_and] at h
    obtain ⟨ra, rb, ha, hb, rfl⟩ := both_eq_ok_iff.mp h
    exact .and (iha ha) (ihb hb)
  | or a b iha ihb =>
    rw [outcome_resolve_or] at h
    obtain ⟨ra, rb, ha, hb, rfl⟩ := both_eq_ok_iff.mp h
    exact .or (iha ha) (ihb hb)
  | not a ih =>
    rw [outcome_resolve_not] at h
    obtain ⟨ra, ha, rfl⟩ := map_eq_ok_iff.mp h
    exact .not (ih ha)

/-! ## Nested selects on their own -/

theorem outcome_select_nested {q : Nested} (hq : q ∈ e.nested)
    (h : ∀ o ∈ e.nested, ¬ o.Fails st.toList) :
    ∃ vs, (st.select q.projection.project q.filter).outcome = .ok vs := by
  obtain ⟨before, after, hsplit⟩ := List.append_of_mem hq
  have hinner : ∀ o ∈ q.filter.nested, ¬ o.Fails st.toList := by
    intro o ho
    have hbefore : o ∈ before := Expr.mem_before_of_nested_eq hsplit ho
    exact h o (by rw [hsplit]; simp [hbefore])
  rw [← failure?_eq_none_iff, failure?_select, findSome?_nested_eq_none_iff.mpr hinner,
    Option.none_or]
  exact Nested.failure?_eq_none_iff.mpr (h q hq)

theorem select_fails_of_nested {q : Nested} (hq : q ∈ e.nested) {err : QueryError}
    (h : (st.select q.projection.project q.filter).outcome = .error err) (p : Projection β) :
    ∃ err', (st.select p e).outcome = .error err' := by
  cases hsel : (st.select p e).outcome with
  | error err' => exact ⟨err', rfl⟩
  | ok vs =>
    obtain ⟨vs', hvs'⟩ := outcome_select_nested hq (outcome_select_eq_ok_iff.mp hsel).1
    rw [h] at hvs'
    cases hvs'

/-- Replacing nested selects by their results changes no set and no outcome. -/
theorem saved_results_interchange (st : Store) (e : Expr) :
    (∀ e', Answered st e e' →
      (st.resolve e').outcome = (st.resolve e).outcome ∧
      ∀ (β : Type) (p : Projection β), (st.select p e').outcome = (st.select p e).outcome) ∧
    (∀ r, (st.resolve e).outcome = .ok r →
      Answered st e r.toExpr ∧ r.toExpr.nested = [] ∧ (st.resolve r.toExpr).outcome = .ok r) ∧
    ∀ q ∈ e.nested, ∀ err, (st.select q.projection.project q.filter).outcome = .error err →
      ∀ (β : Type) (p : Projection β), ∃ err', (st.select p e).outcome = .error err' := by
  refine ⟨?_, ?_, ?_⟩
  · intro e' h
    exact ⟨outcome_resolve_of_answered h, fun β p => outcome_select_of_answered h p⟩
  · intro r hr
    have h : Answered st e r.toExpr := answered_toExpr hr
    exact ⟨h, nested_toExpr r, (outcome_resolve_of_answered h).trans hr⟩
  · intro q hq err h β p
    exact select_fails_of_nested hq h p

def verdictsOfNames : Expr :=
  .and
    (.inSelect (.reifiedId .subject) .statementId
      (.and (Term.predicate.against .eq (.text "my:wife"))
        (Term.subject.isIn (.ofTexts ["Topi"]))))
    (.not ((Term.parseInt .object).against .gt (.int 0)))

def verdictsOfIds : Expr :=
  .and ((Term.reifiedId .subject).isIn (.ofInts [1]))
    (.not ((Term.parseInt .object).against .gt (.int 0)))

def husbands : Expr := .or .everything (.inSelect .subject (.attributeOf "my:wife") .everything)

theorem verdicts_interchange :
    Answered (after marriages) verdicts verdictsOfNames ∧
      Answered (after marriages) verdicts verdictsOfIds ∧
      ((after marriages).select Term.object.project verdictsOfNames).outcome =
        .ok [.text "true"] ∧
      ((after marriages).select .ids verdictsOfIds).outcome = .ok [3] ∧
      ∃ err, ((after marriages).select .ids husbands).outcome = .error err := by
  have hnames : Answered (after marriages) verdicts verdictsOfNames :=
    .and (.kept _ _ (.and (.compare _ _ _) (.replaced _ (.texts rfl)))) (.not (.compare _ _ _))
  have hids : Answered (after marriages) verdicts verdictsOfIds :=
    .and (.replaced _ (.ints rfl)) (.not (.compare _ _ _))
  obtain ⟨hsaved, -, -⟩ := saved_results_interchange (after marriages) verdicts
  obtain ⟨-, -, hfails⟩ := saved_results_interchange (after marriages) husbands
  refine ⟨hnames, hids, ?_, ?_, ?_⟩
  · rw [(hsaved _ hnames).2 Value Term.object.project]
    rfl
  · rw [(hsaved _ hids).2 Int .ids]
    rfl
  · exact hfails ⟨.attributeOf "my:wife", .everything⟩ (by simp [husbands, Expr.nested])
      ⟨0, .missingAttribute "my:wife"⟩ rfl Int .ids

end Store

end TripleStore
