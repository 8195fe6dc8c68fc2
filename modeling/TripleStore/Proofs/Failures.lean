import TripleStore.Proofs.Meaning

/-!
# Failures of selects

Only a projection can fail. The select's own comes last, behind those of the nested selects.
-/

namespace TripleStore

structure Nested where
  projection : Term
  filter : Expr
  deriving DecidableEq, Repr, Inhabited

namespace Expr

/-- The nested selects in the order in which they are answered. -/
def nested : Expr → List Nested
  | everything | compare _ _ _ | inValues _ _ => []
  | inSelect _ projection filter => filter.nested ++ [⟨projection, filter⟩]
  | and a b | or a b => a.nested ++ b.nested
  | not a => a.nested

theorem split_of_append_eq {α : Type} {l m before after : List α} {q : α}
    (h : l ++ m = before ++ q :: after) :
    (∃ rest, l = before ++ q :: rest) ∨ ∃ front, before = l ++ front ∧ m = front ++ q :: after := by
  rcases List.append_eq_append_iff.mp h with ⟨front, hb, hm⟩ | ⟨rest, hl, hq⟩
  · exact Or.inr ⟨front, hb, hm⟩
  · cases rest with
    | nil => exact Or.inr ⟨[], by simpa using hl.symm, by simpa using hq.symm⟩
    | cons x rest =>
      obtain ⟨rfl, -⟩ := List.cons.inj hq
      exact Or.inl ⟨rest, hl⟩

theorem mem_before_of_nested_eq {e : Expr} {before after : List Nested} {q : Nested}
    (h : e.nested = before ++ q :: after) {o : Nested} (ho : o ∈ q.filter.nested) : o ∈ before := by
  induction e generalizing before after with
  | everything | compare | inValues => simp [nested] at h
  | inSelect t projection filter ih =>
    rcases split_of_append_eq h with ⟨rest, hl⟩ | ⟨front, rfl, hm⟩
    · exact ih hl
    · cases front with
      | nil =>
        obtain ⟨rfl, -⟩ := List.cons.inj hm
        exact List.mem_append_left _ ho
      | cons x front => simp at hm
  | and a b iha ihb | or a b iha ihb =>
    rcases split_of_append_eq h with ⟨rest, hl⟩ | ⟨front, rfl, hm⟩
    · exact iha hl
    · exact List.mem_append_right _ (ihb hm)
  | not a ih => exact ih h

end Expr

variable {β : Type}

/-! ## The first failure of a scan -/

def firstFailure (stored : List Statement) (p : Projection β) (filter : Expr) : Option QueryError :=
  (filter.matchesIn stored).findSome? fun s => failure? (p s)

/-- The projection fails on `s` with `err`, and has a value on every match with a lower id. -/
structure FailsAt (stored : List Statement) (p : Projection β) (filter : Expr) (s : Statement)
    (err : QueryError) : Prop where
  sat : filter.Sat stored s
  error : p s = .error err
  lowest : ∀ s' ∈ stored, filter.Sat stored s' → s'.id < s.id → ∃ v, p s' = .ok v

namespace Nested

def failure? (stored : List Statement) (q : Nested) : Option QueryError :=
  firstFailure stored q.projection.project q.filter

def Fails (stored : List Statement) (q : Nested) : Prop :=
  ∃ s ∈ stored, q.filter.Sat stored s ∧ q.projection.value? s = none

theorem failure?_eq_none_iff {stored : List Statement} {q : Nested} :
    q.failure? stored = none ↔ ¬ q.Fails stored := by
  simp only [failure?, firstFailure, List.findSome?_eq_none_iff, Expr.mem_matchesIn,
    Term.failure?_project_eq_none_iff, Fails]
  push Not
  exact ⟨fun h s hs hsat => h s ⟨hs, hsat⟩, fun h s hs => h s hs.1 hs.2⟩

end Nested

theorem Expr.findSome?_nested_inSelect {stored : List Statement} {projection : Term}
    (h : ∀ s ∈ stored, projection.value? s ≠ none) (t : Term) (filter : Expr) :
    (inSelect t projection filter).nested.findSome? (Nested.failure? stored) =
      filter.nested.findSome? (Nested.failure? stored) := by
  have hown : Nested.failure? stored ⟨projection, filter⟩ = none := by
    rw [Nested.failure?_eq_none_iff]
    rintro ⟨s, hs, -, hnone⟩
    exact h s hs hnone
  rw [nested, List.findSome?_append, List.findSome?_singleton, hown, Option.or_none]

def Expr.FirstFailing (stored : List Statement) (e : Expr) (q : Nested) : Prop :=
  q.Fails stored ∧ ∃ before after, e.nested = before ++ q :: after ∧ ∀ o ∈ before, ¬ o.Fails stored

theorem Expr.FirstFailing.not_fails_inner {stored : List Statement} {e : Expr} {q : Nested}
    (h : e.FirstFailing stored q) : ∀ o ∈ q.filter.nested, ¬ o.Fails stored := by
  obtain ⟨-, before, after, hnested, hbefore⟩ := h
  intro o ho
  exact hbefore o (mem_before_of_nested_eq hnested ho)

def Projection.NamesStatement (p : Projection β) : Prop :=
  ∀ s err, p s = .error err → err.statement = s.id

theorem Term.namesStatement_project (t : Term) : t.project.NamesStatement := by
  intro s err h
  unfold project at h
  cases ht : t.eval s with
  | ok v => simp [ht] at h
  | error cause =>
    rw [ht] at h
    rw [← Except.error.inj h]

theorem Term.namesStatement_typed (t : Term) [FromValue β] : (t.typed β).NamesStatement := by
  intro s err h
  unfold typed at h
  cases ht : t.project s with
  | error e =>
    rw [ht] at h
    obtain rfl : e = err := Except.error.inj h
    exact t.namesStatement_project s e ht
  | ok v =>
    simp only [ht, bind, Except.bind] at h
    split at h
    · simp at h
    · rw [← Except.error.inj h]

namespace Store

variable {st : Store}

theorem firstFailure_eq_some_iff (hd : st.Dense) {p : Projection β} (hp : p.NamesStatement)
    {filter : Expr} {err : QueryError} :
    firstFailure st.toList p filter = some err ↔
      ∃ s, st.get? err.statement = some s ∧ FailsAt st.toList p filter s err := by
  have hlt : (filter.matchesIn st.toList).Pairwise fun s s' => s.id < s'.id :=
    hd.pairwise_id_lt.filter _
  rw [firstFailure, List.findSome?_eq_some_iff]
  constructor
  · rintro ⟨before, s, rest, hsplit, herr, hbefore⟩
    have herr : p s = .error err := failure?_eq_some_iff.mp herr
    have hs : s ∈ filter.matchesIn st.toList := by rw [hsplit]; simp
    obtain ⟨hs, hsat⟩ := Expr.mem_matchesIn.mp hs
    refine ⟨s, by rw [hp s err herr, hd.get?_id hs], hsat, herr, ?_⟩
    intro s' hs' hsat' hid
    -- A match with a lower id stands before `s`.
    have hmem : s' ∈ before ++ s :: rest := hsplit ▸ Expr.mem_matchesIn.mpr ⟨hs', hsat'⟩
    rw [hsplit, List.pairwise_append, List.pairwise_cons] at hlt
    rcases List.mem_append.mp hmem with hmem | hmem
    · exact failure?_eq_none_iff.mp (hbefore s' hmem)
    · rcases List.mem_cons.mp hmem with rfl | hmem
      · omega
      · have := hlt.2.1.1 s' hmem
        omega
  · rintro ⟨s, hs, hsat, herr, hlowest⟩
    have hs : s ∈ filter.matchesIn st.toList := Expr.mem_matchesIn.mpr ⟨(hd.of_get? hs).1, hsat⟩
    obtain ⟨before, rest, hsplit⟩ := List.append_of_mem hs
    refine ⟨before, s, rest, hsplit, failure?_eq_some_iff.mpr herr, ?_⟩
    intro s' hs'
    have hmem : s' ∈ filter.matchesIn st.toList := by rw [hsplit]; simp [hs']
    obtain ⟨hmem, hsat'⟩ := Expr.mem_matchesIn.mp hmem
    rw [hsplit, List.pairwise_append] at hlt
    exact failure?_eq_none_iff.mpr (hlowest s' hmem hsat' (hlt.2.2 s' hs' s (by simp)))

/-! ## The first failure of a select -/

theorem failure?_rows {e : Expr} {r : Resolved} (h : (st.resolve e).outcome = .ok r)
    (p : Projection β) : failure? (st.rows p r) = firstFailure st.toList p e := by
  rw [rows, accepted_eq_matchesIn h, failure?_mapM]
  rfl

theorem failure?_resolve (st : Store) (e : Expr) :
    failure? (st.resolve e).outcome = e.nested.findSome? (Nested.failure? st.toList) := by
  induction e with
  | everything | compare | inValues => rfl
  | inSelect t projection filter ih =>
    rw [Expr.nested, List.findSome?_append, ← ih, outcome_resolve_inSelect]
    cases hr : (st.resolve filter).outcome with
    | error err => rfl
    | ok r =>
      have hrows := failure?_rows hr projection.project
      rw [List.findSome?_singleton, Nested.failure?, ← hrows]
      cases h : st.rows projection.project r with
      | error err => simp [h, failure?, bind, Except.bind]
      | ok values => simp [h, failure?, bind, Except.bind, pure, Except.pure]
  | and a b iha ihb =>
    rw [Expr.nested, List.findSome?_append, ← iha, ← ihb, outcome_resolve_and, failure?_both]
  | or a b iha ihb =>
    rw [Expr.nested, List.findSome?_append, ← iha, ← ihb, outcome_resolve_or, failure?_both]
  | not a ih =>
    rw [Expr.nested, ← ih, outcome_resolve_not]
    cases (st.resolve a).outcome <;> rfl

theorem failure?_select (st : Store) (p : Projection β) (e : Expr) :
    failure? (st.select p e).outcome =
      (e.nested.findSome? (Nested.failure? st.toList)).or (firstFailure st.toList p e) := by
  rw [outcome_select, ← failure?_resolve]
  cases hr : (st.resolve e).outcome with
  | error err => rfl
  | ok r =>
    rw [← failure?_rows hr]
    rfl

theorem findSome?_nested_eq_none_iff {stored : List Statement} {e : Expr} :
    e.nested.findSome? (Nested.failure? stored) = none ↔ ∀ q ∈ e.nested, ¬ q.Fails stored := by
  simp only [List.findSome?_eq_none_iff, Nested.failure?_eq_none_iff]

theorem exists_resolve_eq_ok_iff (st : Store) (e : Expr) :
    (∃ r, (st.resolve e).outcome = .ok r) ↔ ∀ q ∈ e.nested, ¬ q.Fails st.toList := by
  rw [← failure?_eq_none_iff, failure?_resolve, findSome?_nested_eq_none_iff]

theorem exists_resolve_inSelect {projection : Term} {filter : Expr} {r : Resolved}
    (h : ∀ s ∈ st.toList, projection.value? s ≠ none) (hr : (st.resolve filter).outcome = .ok r)
    (t : Term) : ∃ r', (st.resolve (.inSelect t projection filter)).outcome = .ok r' := by
  rw [← failure?_eq_none_iff, failure?_resolve, Expr.findSome?_nested_inSelect h,
    ← failure?_resolve, failure?_eq_none_iff]
  exact ⟨r, hr⟩

theorem exists_resolve_of_nested_eq_nil (st : Store) {e : Expr} (he : e.nested = []) :
    ∃ r, (st.resolve e).outcome = .ok r := by
  rw [exists_resolve_eq_ok_iff, he]
  simp

theorem findSome?_nested_eq_some_iff (hd : st.Dense) {e : Expr} {err : QueryError} :
    e.nested.findSome? (Nested.failure? st.toList) = some err ↔
      ∃ q, e.FirstFailing st.toList q ∧ ∃ s, st.get? err.statement = some s ∧
        FailsAt st.toList q.projection.project q.filter s err := by
  simp only [List.findSome?_eq_some_iff, Nested.failure?_eq_none_iff]
  constructor
  · rintro ⟨before, q, rest, hnested, herr, hbefore⟩
    have hfails : q.Fails st.toList := by
      by_contra hok
      rw [Nested.failure?_eq_none_iff.mpr hok] at herr
      cases herr
    exact ⟨q, ⟨hfails, before, rest, hnested, hbefore⟩,
      (firstFailure_eq_some_iff hd q.projection.namesStatement_project).mp herr⟩
  · rintro ⟨q, ⟨-, before, rest, hnested, hbefore⟩, hs⟩
    exact ⟨before, q, rest, hnested,
      (firstFailure_eq_some_iff hd q.projection.namesStatement_project).mpr hs, hbefore⟩

theorem outcome_select_eq_error_iff (hd : st.Dense) {p : Projection β} (hp : p.NamesStatement)
    {e : Expr} {err : QueryError} :
    (st.select p e).outcome = .error err ↔
      (∃ q, e.FirstFailing st.toList q ∧ ∃ s, st.get? err.statement = some s ∧
        FailsAt st.toList q.projection.project q.filter s err) ∨
      (∀ q ∈ e.nested, ¬ q.Fails st.toList) ∧
        ∃ s, st.get? err.statement = some s ∧ FailsAt st.toList p e s err := by
  rw [← failure?_eq_some_iff, failure?_select, Option.or_eq_some_iff,
    findSome?_nested_eq_some_iff hd, findSome?_nested_eq_none_iff, firstFailure_eq_some_iff hd hp]

theorem outcome_select_eq_ok_iff {p : Projection β} {e : Expr} {vs : List β} :
    (st.select p e).outcome = .ok vs ↔
      (∀ q ∈ e.nested, ¬ q.Fails st.toList) ∧ (e.matchesIn st.toList).map p = vs.map .ok := by
  rw [← exists_resolve_eq_ok_iff, ← mapM_eq_ok_iff]
  constructor
  · intro h
    have hsel := h
    rw [outcome_select] at hsel
    obtain ⟨r, hr, -⟩ := bind_eq_ok_iff.mp hsel
    rw [outcome_select_of_resolve hr] at h
    exact ⟨⟨r, hr⟩, h⟩
  · rintro ⟨⟨r, hr⟩, h⟩
    rw [outcome_select_of_resolve hr, h]

theorem exists_select_eq_ok_iff {p : Projection β} {e : Expr} :
    (∃ vs, (st.select p e).outcome = .ok vs) ↔
      (∀ q ∈ e.nested, ¬ q.Fails st.toList) ∧ ∀ s ∈ e.matchesIn st.toList, ∃ v, p s = .ok v := by
  rw [← failure?_eq_none_iff, failure?_select, Option.or_eq_none_iff,
    findSome?_nested_eq_none_iff, firstFailure, List.findSome?_eq_none_iff]
  simp only [failure?_eq_none_iff]

end Store

inductive TermProjection : Type → Type 1 where
  | value (t : Term) : TermProjection Value
  | typed (β : Type) [FromValue β] (t : Term) : TermProjection β

namespace TermProjection

def apply : TermProjection β → Projection β
  | value t => t.project
  | typed β t => t.typed β

theorem namesStatement_apply (p : TermProjection β) : p.apply.NamesStatement := by
  cases p with
  | value t => exact t.namesStatement_project
  | typed β t => exact t.namesStatement_typed

end TermProjection

namespace Store

/-- A select fails as its first nested select that fails, or else as its own projection does. -/
theorem select_fails_as_first (changes : List Change) (p : TermProjection β) (e : Expr) :
    let st := after changes
    let stored := st.toList
    (∀ err, (st.select p.apply e).outcome = .error err ↔
      (∃ q, e.FirstFailing stored q ∧ (∀ o ∈ q.filter.nested, ¬ o.Fails stored) ∧
        ∃ s, st.get? err.statement = some s ∧
          FailsAt stored q.projection.project q.filter s err) ∨
      (∀ q ∈ e.nested, ¬ q.Fails stored) ∧
        ∃ s, st.get? err.statement = some s ∧ FailsAt stored p.apply e s err) ∧
    (∀ vs, (st.select p.apply e).outcome = .ok vs ↔
      (∀ q ∈ e.nested, ¬ q.Fails stored) ∧ (e.matchesIn stored).map p.apply = vs.map .ok) ∧
    (e.nested = [] → ∃ r, (st.resolve e).outcome = .ok r) := by
  intro st stored
  have hd : st.Dense := dense_after changes
  refine ⟨?_, fun vs => outcome_select_eq_ok_iff, ?_⟩
  · intro err
    rw [outcome_select_eq_error_iff hd p.namesStatement_apply]
    refine or_congr_left (exists_congr fun q => ?_)
    exact ⟨fun h => ⟨h.1, h.1.not_fails_inner, h.2⟩, fun h => ⟨h.1, h.2.2⟩⟩
  · intro h
    rw [exists_resolve_eq_ok_iff, h]
    simp

/-- No statement asks for the set of the last select, which fails all the same. -/
theorem objects_of_marriages :
    let st := after marriages
    let stored := st.toList
    let number := TermProjection.typed Int (.parseInt .object)
    let children := Term.predicate.against .eq (.text "my:kids")
    let unnumbered : QueryError := ⟨1, .conversion "Anna" "integer"⟩
    let unmarried : QueryError := ⟨0, .missingAttribute "my:wife"⟩
    ((st.select number.apply children).outcome = .ok [6] ∧
      (children.matchesIn stored).map number.apply = [6].map .ok) ∧
    ((st.select number.apply ofTopi).outcome = .error unnumbered ∧
      ∃ s, st.get? 1 = some s ∧ FailsAt stored number.apply ofTopi s unnumbered) ∧
    ((st.select number.apply (.or .everything ofMarried)).outcome = .error unmarried ∧
      ∃ q, (Expr.or .everything ofMarried).FirstFailing stored q ∧
        ∃ s, st.get? 0 = some s ∧
          FailsAt stored q.projection.project q.filter s unmarried) := by
  intro st stored number children unnumbered unmarried
  obtain ⟨-, hok, -⟩ := select_fails_as_first marriages number children
  obtain ⟨hown, -, -⟩ := select_fails_as_first marriages number ofTopi
  obtain ⟨hnested, -, -⟩ := select_fails_as_first marriages number (.or .everything ofMarried)
  refine ⟨⟨rfl, ((hok [6]).mp rfl).2⟩, ⟨rfl, ?_⟩, rfl, ?_⟩
  · rcases (hown unnumbered).mp rfl with ⟨q, ⟨-, before, after, hsplit, -⟩, -⟩ | ⟨-, hs⟩
    · cases before <;> cases hsplit
    · exact hs
  · rcases (hnested unmarried).mp rfl with ⟨q, hfirst, -, hs⟩ | ⟨hok, -⟩
    · exact ⟨q, hfirst, hs⟩
    · exact absurd ⟨_, List.mem_cons_self, trivial, rfl⟩ (hok _ List.mem_cons_self)

end Store

end TripleStore
