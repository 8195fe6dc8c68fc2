import TripleStore.Proofs.Failures

/-!
# Agreement of expressions

Two expressions agree in a store if they hold of the same stored statements and their nested selects
fail alike. Then no select tells one from the other, wherever it stands.
-/

namespace TripleStore

variable {β : Type}

/-! ## An expression on one statement -/

namespace Store

/-- Whether the expression accepts the statement, stored or not, if it resolves at all. -/
def test (st : Store) (e : Expr) (s : Statement) : Except QueryError Bool := do
  return (← (st.resolve e).outcome).accepts s

variable {st : Store} {e e' : Expr} {s : Statement}

theorem test_of_resolve {r : Resolved} (h : (st.resolve e).outcome = .ok r) (s : Statement) :
    st.test e s = .ok (r.accepts s) := by
  rw [test, h]
  rfl

theorem test_eq (st : Store) (e : Expr) (s : Statement) :
    st.test e s =
      (e.nested.findSome? (Nested.failure? st.toList)).elim (.ok (decide (e.Sat st.toList s)))
        .error := by
  have hfail := failure?_resolve st e
  cases hr : (st.resolve e).outcome with
  | error err =>
    rw [← hfail, hr, test, hr]
    rfl
  | ok r =>
    rw [← hfail, hr, test_of_resolve hr, accepts_eq_decide_sat hr]
    rfl

theorem test_eq_map_of_sat_iff {p : Prop} [Decidable p]
    (hsat : e.Sat st.toList s ↔ p ∧ e'.Sat st.toList s) (hnested : e.nested = e'.nested) :
    st.test e s = (st.test e' s).map (decide p && ·) := by
  rw [test_eq, test_eq, hnested]
  cases e'.nested.findSome? (Nested.failure? st.toList) with
  | none => simp [Except.map, hsat]
  | some err => rfl

end Store

/-! ## Membership -/

def SetOperand.Contains (stored : List Statement) (v : Value) : SetOperand → Prop
  | values vs => v ∈ vs
  | select projection filter =>
    ∃ s ∈ stored, filter.Sat stored s ∧ projection.value? s = some v

namespace Term

theorem sat_isIn_iff {stored : List Statement} {t : Term} {set : SetOperand} {s : Statement} :
    (t.isIn set).Sat stored s ↔ ∃ v, set.Contains stored v ∧ t.value? s = some v := by
  cases set with
  | values vs => exact Iff.rfl
  | select projection filter =>
    simp only [isIn, Expr.Sat, SetOperand.Contains]
    constructor
    · rintro ⟨s', hs', hsat, v, hv, ht⟩
      exact ⟨v, ⟨s', hs', hsat, hv⟩, ht⟩
    · rintro ⟨v, ⟨s', hs', hsat, hv⟩, ht⟩
      exact ⟨s', hs', hsat, v, hv, ht⟩

theorem nested_isIn (t t' : Term) (set : SetOperand) :
    (t.isIn set).nested = (t'.isIn set).nested := by
  cases set <;> rfl

end Term

/-! ## Agreement -/

structure Expr.Agree (stored : List Statement) (e e' : Expr) : Prop where
  sat : ∀ s ∈ stored, e.Sat stored s ↔ e'.Sat stored s
  failure : e.nested.findSome? (Nested.failure? stored) =
    e'.nested.findSome? (Nested.failure? stored)

namespace Expr.Agree

variable {stored : List Statement} {a a' b b' e e' e'' filter filter' : Expr}

theorem refl (stored : List Statement) (e : Expr) : Agree stored e e := ⟨fun _ _ => Iff.rfl, rfl⟩

theorem trans (h : Agree stored e e') (h' : Agree stored e' e'') : Agree stored e e'' :=
  ⟨fun s hs => (h.sat s hs).trans (h'.sat s hs), h.failure.trans h'.failure⟩

theorem matchesIn_eq (h : Agree stored e e') : e.matchesIn stored = e'.matchesIn stored := by
  refine List.filter_congr fun s hs => ?_
  rw [decide_eq_decide]
  exact h.sat s hs

theorem firstFailure_eq (h : Agree stored e e') (p : Projection β) :
    firstFailure stored p e = firstFailure stored p e' := by
  rw [firstFailure, h.matchesIn_eq, firstFailure]

theorem inSelect (h : Agree stored filter filter') (t projection : Term) :
    Agree stored (.inSelect t projection filter) (.inSelect t projection filter') := by
  constructor
  · intro s _
    refine exists_congr fun s' => and_congr_right fun hs' => ?_
    rw [h.sat s' hs']
  · have hown : Nested.failure? stored ⟨projection, filter⟩ =
        Nested.failure? stored ⟨projection, filter'⟩ := h.firstFailure_eq projection.project
    rw [nested, nested, List.findSome?_append, List.findSome?_append, h.failure,
      List.findSome?_singleton, List.findSome?_singleton, hown]

theorem and (ha : Agree stored a a') (hb : Agree stored b b') :
    Agree stored (.and a b) (.and a' b') := by
  constructor
  · intro s hs
    exact and_congr (ha.sat s hs) (hb.sat s hs)
  · rw [nested, nested, List.findSome?_append, List.findSome?_append, ha.failure, hb.failure]

theorem or (ha : Agree stored a a') (hb : Agree stored b b') :
    Agree stored (.or a b) (.or a' b') := by
  constructor
  · intro s hs
    exact or_congr (ha.sat s hs) (hb.sat s hs)
  · rw [nested, nested, List.findSome?_append, List.findSome?_append, ha.failure, hb.failure]

theorem not (ha : Agree stored a a') : Agree stored (.not a) (.not a') :=
  ⟨fun s hs => not_congr (ha.sat s hs), ha.failure⟩

end Expr.Agree

theorem Store.outcome_select_of_agree {st : Store} {e e' : Expr} (h : e.Agree st.toList e')
    (p : Projection β) : (st.select p e).outcome = (st.select p e').outcome := by
  have hfail := failure?_resolve st e
  rw [h.failure, ← failure?_resolve] at hfail
  cases hr : (st.resolve e).outcome with
  | error err =>
    rw [hr, failure?_eq_some_iff.mpr rfl, eq_comm, failure?_eq_some_iff] at hfail
    rw [outcome_select, outcome_select, hr, hfail]
  | ok r =>
    rw [hr, failure?_eq_none_iff.mpr ⟨r, rfl⟩, eq_comm, failure?_eq_none_iff] at hfail
    obtain ⟨r', hr'⟩ := hfail
    -- The projection meets the same matches in the same order, so it fails on the same one.
    rw [outcome_select_of_resolve hr, outcome_select_of_resolve hr', h.matchesIn_eq]

/-! ## Contexts -/

/-- An expression with one place left open. -/
inductive Context where
  | hole
  | inSelect (t projection : Term) (filter : Context)
  | andLeft (a : Context) (b : Expr)
  | andRight (a : Expr) (b : Context)
  | orLeft (a : Context) (b : Expr)
  | orRight (a : Expr) (b : Context)
  | not (a : Context)
  deriving DecidableEq, Repr, Inhabited

namespace Context

def fill : Context → Expr → Expr
  | hole, e => e
  | inSelect t projection filter, e => .inSelect t projection (filter.fill e)
  | andLeft a b, e => .and (a.fill e) b
  | andRight a b, e => .and a (b.fill e)
  | orLeft a b, e => .or (a.fill e) b
  | orRight a b, e => .or a (b.fill e)
  | not a, e => .not (a.fill e)

/-- What is said of the statements that are not in the place. -/
def saidOfOthers : Context := .inSelect (.reifiedId .subject) .statementId (.not .hole)

theorem agree_fill {stored : List Statement} {e e' : Expr} (h : e.Agree stored e') (c : Context) :
    (c.fill e).Agree stored (c.fill e') := by
  induction c with
  | hole => exact h
  | inSelect t projection filter ih => exact ih.inSelect t projection
  | andLeft a b ih => exact ih.and (.refl stored b)
  | andRight a b ih => exact (Expr.Agree.refl stored a).and ih
  | orLeft a b ih => exact ih.or (.refl stored b)
  | orRight a b ih => exact (Expr.Agree.refl stored a).or ih
  | not a ih => exact ih.not

theorem sat_fill_iff {stored : List Statement} {e e' : Expr}
    (h : ∀ s, e.Sat stored s ↔ e'.Sat stored s) (c : Context) (s : Statement) :
    (c.fill e).Sat stored s ↔ (c.fill e').Sat stored s := by
  induction c generalizing s with
  | hole => exact h s
  | inSelect t projection filter ih =>
    exact exists_congr fun s' => and_congr_right fun _ => and_congr_left' (ih s')
  | andLeft a b ih => exact and_congr_left' (ih s)
  | andRight a b ih => exact and_congr_right' (ih s)
  | orLeft a b ih => exact or_congr_left (ih s)
  | orRight a b ih => exact or_congr_right (ih s)
  | not a ih => exact not_congr (ih s)

end Context

end TripleStore
