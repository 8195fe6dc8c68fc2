import TripleStore.Proofs.Failures

/-! # What a select logs -/

namespace TripleStore

variable {ε α β γ : Type}

/-! ## Lines -/

def selectedLine (filter : Expr) (results all : Nat) : Level × String :=
  (.debug, "select " ++ filter.display ++ ": " ++ toString results ++ " of " ++ toString all ++
    " statements matched")

def resolvedLine (projection : Term) (filter : Expr) (values : Nat) : Level × String :=
  (.trace, "resolved subquery select(" ++ projection.display ++ ", " ++ filter.display ++ ") to " ++
    toString values ++ " values")

def Event.line (e : Event) : Level × String := (e.level, e.message)

def Traced.lines (x : Traced ε α) : List (Level × String) := x.log.map Event.line

theorem line_selected (filter : Expr) (results all : Nat) :
    (Event.selected filter results all).line = selectedLine filter results all := by
  unfold Event.line Event.level Event.message selectedLine
  rfl

theorem line_resolved (projection : Term) (filter : Expr) (values : Nat) :
    (Event.resolved projection filter values).line = resolvedLine projection filter values := by
  -- The select is written by its own writer, so the texts are cut in other places.
  have hselect : "resolved subquery select(" = "resolved subquery " ++ "select(" := by rfl
  have hto : ") to " = ")" ++ " to " := by rfl
  unfold Event.line Event.level Event.message Expr.displaySelect resolvedLine
  rw [hselect, hto]
  simp only [String.append_assoc]

namespace Nested

def events (stored : List Statement) (q : Nested) : List Event :=
  let matched := (q.filter.matchesIn stored).length
  [.selected q.filter matched stored.length, .resolved q.projection q.filter matched]

def lines (stored : List Statement) (q : Nested) : List (Level × String) :=
  let matched := (q.filter.matchesIn stored).length
  [selectedLine q.filter matched stored.length, resolvedLine q.projection q.filter matched]

theorem map_line_events (stored : List Statement) (q : Nested) :
    (q.events stored).map Event.line = q.lines stored := by
  simp [events, lines, line_selected, line_resolved]

theorem map_line_flatMap_events (stored : List Statement) (qs : List Nested) :
    (qs.flatMap (events stored)).map Event.line = qs.flatMap (lines stored) := by
  rw [List.map_flatMap]
  exact List.flatMap_congr fun q _ => map_line_events stored q

theorem length_flatMap_lines (stored : List Statement) (qs : List Nested) :
    (qs.flatMap (lines stored)).length = 2 * qs.length := by
  induction qs with
  | nil => rfl
  | cons q qs ih =>
    rw [List.flatMap_cons, List.length_append, ih, List.length_cons]
    simp only [lines, List.length_cons, List.length_nil]
    omega

/-! ## The nested selects that are answered -/

def answered (stored : List Statement) (qs : List Nested) : List Nested :=
  qs.takeWhile fun q => (q.failure? stored).isNone

theorem answered_append_of_ok {stored : List Statement} {qs : List Nested}
    (h : qs.findSome? (Nested.failure? stored) = none) (rs : List Nested) :
    answered stored (qs ++ rs) = qs ++ answered stored rs := by
  unfold answered
  apply List.takeWhile_append_of_pos
  intro q hq
  rw [List.findSome?_eq_none_iff.mp h q hq]
  rfl

theorem answered_of_ok {stored : List Statement} {qs : List Nested}
    (h : qs.findSome? (Nested.failure? stored) = none) : answered stored qs = qs := by
  simpa [answered] using answered_append_of_ok h []

theorem answered_of_split {stored : List Statement} {before : List Nested} {q : Nested}
    {err : QueryError} (hbefore : ∀ o ∈ before, o.failure? stored = none)
    (hq : q.failure? stored = some err) (after : List Nested) :
    answered stored (before ++ q :: after) = before := by
  rw [answered_append_of_ok (List.findSome?_eq_none_iff.mpr hbefore)]
  simp [answered, hq]

theorem answered_append_of_error {stored : List Statement} {qs : List Nested} {err : QueryError}
    (h : qs.findSome? (Nested.failure? stored) = some err) (rs : List Nested) :
    answered stored (qs ++ rs) = answered stored qs := by
  obtain ⟨before, q, after, rfl, hq, hbefore⟩ := List.findSome?_eq_some_iff.mp h
  rw [List.append_assoc, List.cons_append, answered_of_split hbefore hq,
    answered_of_split hbefore hq]

end Nested

/-! ## One equation for each question -/

theorem Traced.log_both (x : Traced ε α) (y : Traced ε β) (f : α → β → γ) :
    (do return f (← x) (← y)).log =
      match x.outcome with
      | .ok _ => x.log ++ y.log
      | .error _ => x.log := by
  cases hx : x.outcome with
  | error e => rw [Traced.bind_of_error hx]
  | ok a =>
    rw [Traced.bind_of_ok hx]
    cases hy : y.outcome with
    | error e => rw [Traced.bind_of_error hy]
    | ok b => simp [Traced.bind_of_ok hy]

theorem Traced.log_map (x : Traced ε α) (f : α → β) : (do return f (← x)).log = x.log := by
  cases hx : x.outcome with
  | error e => rw [Traced.bind_of_error hx]
  | ok a => simp [Traced.bind_of_ok hx]

namespace Store

variable {st : Store} {e : Expr}

theorem length_of_outcome_select {p : Projection β} {vs : List β}
    (h : (st.select p e).outcome = .ok vs) : vs.length = (e.matchesIn st.toList).length := by
  have hmap := congrArg List.length (outcome_select_eq_ok_iff.mp h).2
  simpa using hmap.symm

theorem log_select (st : Store) (p : Projection β) (e : Expr) :
    (st.select p e).log = (st.resolve e).log ++
      match (st.select p e).outcome with
      | .ok _ => [.selected e (e.matchesIn st.toList).length st.toList.length]
      | .error _ => [] := by
  cases hr : (st.resolve e).outcome with
  | error err =>
    rw [select, Traced.bind_of_error hr]
    simp
  | ok r =>
    have hsel : (st.select p e).outcome = st.rows p r := by rw [outcome_select, hr]; rfl
    have hlog : (st.select p e).log = (st.resolve e).log ++ (st.scan p e r).log := by
      rw [select, Traced.log_bind_of_ok hr]
    rw [hlog, hsel]
    congr 1
    cases hrows : st.rows p r with
    | error err => rw [scan, Traced.bind_of_error (by rw [Traced.outcome_lift, hrows])]; rfl
    | ok vs =>
      rw [scan, Traced.log_bind_of_ok (by rw [Traced.outcome_lift, hrows])]
      rw [hrows] at hsel
      rw [length_toList, ← length_of_outcome_select hsel]
      rfl

theorem failure?_select_nested (st : Store) (q : Nested) :
    failure? (st.select q.projection.project q.filter).outcome =
      (q.filter.nested.findSome? (Nested.failure? st.toList)).or (q.failure? st.toList) :=
  failure?_select st q.projection.project q.filter

theorem log_resolve (st : Store) (e : Expr) :
    (st.resolve e).log =
      (Nested.answered st.toList e.nested).flatMap (Nested.events st.toList) := by
  induction e with
  | everything | compare | inValues => rfl
  | inSelect t projection filter ih =>
    have hfail := failure?_select_nested st ⟨projection, filter⟩
    have hlog := log_select st projection.project filter
    rw [ih] at hlog
    rw [resolve_inSelect, Expr.nested]
    cases hsel : (st.select projection.project filter).outcome with
    | error err =>
      rw [Traced.bind_of_error hsel, hlog, hsel, List.append_nil]
      -- Either a select in the filter failed, or this one did after all of those were answered.
      rw [hsel, failure?_eq_some_iff.mpr rfl, eq_comm, Option.or_eq_some_iff] at hfail
      rcases hfail with herr | ⟨hok, herr⟩
      · rw [Nested.answered_append_of_error herr]
      · rw [Nested.answered_append_of_ok hok, Nested.answered_of_ok hok]
        simp [Nested.answered, herr]
    | ok vs =>
      rw [hsel, failure?_eq_none_iff.mpr ⟨vs, rfl⟩, eq_comm, Option.or_eq_none_iff] at hfail
      obtain ⟨hok, hq⟩ := hfail
      rw [Traced.log_bind_of_ok hsel, hlog, hsel, Nested.answered_append_of_ok hok,
        Nested.answered_of_ok hok, List.flatMap_append, List.append_assoc]
      congr 1
      rw [Traced.log_bind_of_ok rfl, length_of_outcome_select hsel]
      simp [Nested.answered, hq, Nested.events]
  | and a b iha ihb | or a b iha ihb =>
    have hfail := failure?_resolve st a
    rw [resolve, Traced.log_both, iha, ihb, Expr.nested]
    cases ha : (st.resolve a).outcome with
    | error err =>
      rw [ha, failure?_eq_some_iff.mpr rfl] at hfail
      rw [Nested.answered_append_of_error hfail.symm]
    | ok r =>
      rw [ha, failure?_eq_none_iff.mpr ⟨r, rfl⟩] at hfail
      rw [Nested.answered_append_of_ok hfail.symm, Nested.answered_of_ok hfail.symm,
        List.flatMap_append]
  | not a ih =>
    rw [resolve, Traced.log_map, ih]
    rfl

theorem log_matching (st : Store) (e : Expr) : (st.matching e).log = (st.resolve e).log :=
  Traced.log_map _ _

theorem log_count (st : Store) (e : Expr) : (st.count e).log = (st.resolve e).log :=
  Traced.log_map _ _

end Store

/-! ## Successes and failures -/

/-- The nested selects before `q` succeed, and `q` fails with `err`. -/
structure Expr.StopsAt (stored : List Statement) (e : Expr) (before : List Nested) (q : Nested)
    (err : QueryError) : Prop where
  split : ∃ after, e.nested = before ++ q :: after
  succeed : ∀ o ∈ before, o.failure? stored = none
  fails : q.failure? stored = some err

theorem Expr.exists_stopsAt {stored : List Statement} {e : Expr} {err : QueryError}
    (h : e.nested.findSome? (Nested.failure? stored) = some err) :
    ∃ before q, e.StopsAt stored before q err ∧ Nested.answered stored e.nested = before := by
  obtain ⟨before, q, after, hsplit, hq, hbefore⟩ := List.findSome?_eq_some_iff.mp h
  refine ⟨before, q, ⟨⟨after, hsplit⟩, hbefore, hq⟩, ?_⟩
  rw [hsplit, Nested.answered_of_split hbefore hq]

structure LogsNested (stored : List Statement) (e : Expr) (x : Traced QueryError α) : Prop where
  ok : ∀ a, x.outcome = .ok a → x.lines = e.nested.flatMap (Nested.lines stored)
  error : ∀ err, x.outcome = .error err →
    ∃ before q, e.StopsAt stored before q err ∧ x.lines = before.flatMap (Nested.lines stored)

namespace Store

theorem lines_resolve (st : Store) (e : Expr) :
    (st.resolve e).lines =
      (Nested.answered st.toList e.nested).flatMap (Nested.lines st.toList) := by
  rw [Traced.lines, log_resolve, Nested.map_line_flatMap_events]

theorem lines_select (st : Store) (p : Projection β) (e : Expr) :
    (st.select p e).lines = (st.resolve e).lines ++
      match (st.select p e).outcome with
      | .ok _ => [selectedLine e (e.matchesIn st.toList).length st.toList.length]
      | .error _ => [] := by
  rw [Traced.lines, log_select, List.map_append]
  cases (st.select p e).outcome <;> simp [Traced.lines, line_selected]

theorem logsNested_of_resolve {st : Store} {e : Expr} {x : Traced QueryError α} {f : Resolved → α}
    (hlog : x.log = (st.resolve e).log)
    (houtcome : x.outcome = do return f (← (st.resolve e).outcome)) :
    LogsNested st.toList e x := by
  have hfail := failure?_resolve st e
  have hlines : x.lines = (st.resolve e).lines := by rw [Traced.lines, hlog, Traced.lines]
  constructor
  · intro a ha
    obtain ⟨r, hr, -⟩ := map_eq_ok_iff.mp (houtcome.symm.trans ha)
    rw [failure?_eq_none_iff.mpr ⟨r, hr⟩] at hfail
    rw [hlines, lines_resolve, Nested.answered_of_ok hfail.symm]
  · intro err herr
    cases hr : (st.resolve e).outcome with
    | ok r =>
      rw [houtcome, hr] at herr
      cases herr
    | error err' =>
      rw [houtcome, hr] at herr
      obtain rfl : err' = err := Except.error.inj herr
      rw [failure?_eq_some_iff.mpr hr] at hfail
      obtain ⟨before, q, hstops, hbefore⟩ := Expr.exists_stopsAt hfail.symm
      exact ⟨before, q, hstops, by rw [hlines, lines_resolve, hbefore]⟩

/-- Each nested select is answered once, however many statements are stored. -/
theorem select_logs_each_once (st : Store) (e : Expr) :
    let stored := st.toList
    let nestedLines := e.nested.flatMap (Nested.lines stored)
    (∀ (β : Type) (p : Projection β),
      (∀ vs, (st.select p e).outcome = .ok vs →
        (st.select p e).lines =
          nestedLines ++ [selectedLine e (e.matchesIn stored).length stored.length] ∧
        (st.select p e).lines.length = 2 * e.nested.length + 1) ∧
      ∀ err, (st.select p e).outcome = .error err →
        (∃ before q, e.StopsAt stored before q err ∧
          (st.select p e).lines = before.flatMap (Nested.lines stored)) ∨
        (∀ q ∈ e.nested, q.failure? stored = none) ∧ firstFailure stored p e = some err ∧
          (st.select p e).lines = nestedLines) ∧
    LogsNested stored e (st.matching e) ∧ LogsNested stored e (st.count e) := by
  intro stored nestedLines
  refine ⟨?_, ?_, ?_⟩
  · intro β p
    have hfail := failure?_select st p e
    have hlines := lines_select st p e
    rw [lines_resolve] at hlines
    constructor
    · intro vs hvs
      rw [failure?_eq_none_iff.mpr ⟨vs, hvs⟩, eq_comm, Option.or_eq_none_iff] at hfail
      rw [hvs, Nested.answered_of_ok hfail.1] at hlines
      refine ⟨hlines, ?_⟩
      rw [hlines, List.length_append, Nested.length_flatMap_lines, List.length_singleton]
    · intro err herr
      rw [failure?_eq_some_iff.mpr herr, eq_comm, Option.or_eq_some_iff] at hfail
      rw [herr, List.append_nil] at hlines
      rcases hfail with hnested | ⟨hnested, hown⟩
      · obtain ⟨before, q, hstops, hbefore⟩ := Expr.exists_stopsAt hnested
        exact Or.inl ⟨before, q, hstops, by rw [hlines, hbefore]⟩
      · rw [Nested.answered_of_ok hnested] at hlines
        exact Or.inr ⟨List.findSome?_eq_none_iff.mp hnested, hown, hlines⟩
  · exact logsNested_of_resolve (log_matching st e) (outcome_matching st e)
  · exact logsNested_of_resolve (log_count st e) (outcome_count st e)

def manyChildren : Expr := (Term.parseInt (.attributeOf "my:kids")).against .gt (.int 5)

def wivesOfAll : Expr :=
  .and largeFamilies (.inSelect .subject (.attributeOf "my:wife") .everything)

theorem verdicts_logged :
    ((after marriages).select Term.object.project verdicts).lines =
        [selectedLine manyChildren 1 5, resolvedLine .subject manyChildren 1,
          selectedLine largeFamilies 1 5, resolvedLine .statementId largeFamilies 1,
          selectedLine verdicts 1 5] ∧
      ((after marriages).select (Term.parseInt .object).project verdicts).lines =
        [selectedLine manyChildren 1 5, resolvedLine .subject manyChildren 1,
          selectedLine largeFamilies 1 5, resolvedLine .statementId largeFamilies 1] ∧
      (∃ before q, wivesOfAll.StopsAt (after marriages).toList before q
          ⟨0, .missingAttribute "my:wife"⟩ ∧
        ((after marriages).matching wivesOfAll).lines =
          before.flatMap (Nested.lines (after marriages).toList)) ∧
      ((after marriages).matching wivesOfAll).lines =
        [(.debug, "select parse_int(attribute(my:kids)) > 5: 1 of 5 statements matched"),
          (.trace,
            "resolved subquery select(subject, parse_int(attribute(my:kids)) > 5) to 1 values")] ∧
      selectedLine verdicts 1 5 =
        (.debug, "select (reified_id(subject) in select(statement_id, " ++
          "(predicate == \"my:wife\" && subject in select(subject, " ++
          "parse_int(attribute(my:kids)) > 5))) && !parse_int(object) > 0): " ++
          "1 of 5 statements matched") := by
  obtain ⟨hselect, -, -⟩ := select_logs_each_once (after marriages) verdicts
  obtain ⟨-, hmatching, -⟩ := select_logs_each_once (after marriages) wivesOfAll
  refine ⟨?_, ?_, ?_, by decide +kernel, by decide +kernel⟩
  · exact ((hselect Value Term.object.project).1 [.text "true"] rfl).1
  · have hok : ∀ q ∈ verdicts.nested, q.failure? (after marriages).toList = none :=
      List.findSome?_eq_none_iff.mp rfl
    rcases (hselect Value (Term.parseInt .object).project).2
        ⟨3, .conversion "true" "integer"⟩ rfl with ⟨before, q, hstops, -⟩ | ⟨-, -, hlines⟩
    · obtain ⟨after, hsplit⟩ := hstops.split
      have hq := hok q (by rw [hsplit]; simp)
      rw [hstops.fails] at hq
      cases hq
    · exact hlines
  · exact hmatching.error _ rfl

end Store

end TripleStore
