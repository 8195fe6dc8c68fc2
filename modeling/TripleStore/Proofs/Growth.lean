import TripleStore.Proofs.Combinations
import TripleStore.Proofs.Failures
import TripleStore.Proofs.Imports

/-!
# Selects in a growing store

A nested select has more values when the store has grown. An even number of negations over it keeps
what was selected, and an odd number selects nothing older anew.
-/

namespace TripleStore

/-! ## Negations over nested selects -/

namespace Expr

variable {a b filter e : Expr} {t projection : Term}

/-- How many negations stand over each nested select, through the filters too. -/
def negationsOver : Expr → List Nat
  | everything | compare _ _ _ | inValues _ _ => []
  | inSelect _ _ filter => filter.negationsOver ++ [0]
  | and a b | or a b => a.negationsOver ++ b.negationsOver
  | not a => a.negationsOver.map (· + 1)

def IsPositive (e : Expr) : Prop := ∀ n ∈ e.negationsOver, n % 2 = 0

def IsNegative (e : Expr) : Prop := ∀ n ∈ e.negationsOver, n % 2 = 1

instance (e : Expr) : Decidable e.IsPositive :=
  inferInstanceAs (Decidable (∀ n ∈ e.negationsOver, n % 2 = 0))

instance (e : Expr) : Decidable e.IsNegative :=
  inferInstanceAs (Decidable (∀ n ∈ e.negationsOver, n % 2 = 1))

theorem length_negationsOver (e : Expr) : e.negationsOver.length = e.nested.length := by
  induction e with
  | everything | compare | inValues => rfl
  | inSelect t projection filter ih => simp [negationsOver, nested, ih]
  | and a b iha ihb | or a b iha ihb => simp [negationsOver, nested, iha, ihb]
  | not a ih => simp [negationsOver, nested, ih]

theorem negationsOver_eq_nil (h : e.nested = []) : e.negationsOver = [] := by
  rw [← List.length_eq_zero_iff, length_negationsOver, h, List.length_nil]

theorem isPositive_inSelect : (inSelect t projection filter).IsPositive ↔ filter.IsPositive := by
  simp [IsPositive, negationsOver, or_imp, forall_and]

theorem not_isNegative_inSelect : ¬ (inSelect t projection filter).IsNegative := by
  simp [IsNegative, negationsOver]

theorem isPositive_and : (and a b).IsPositive ↔ a.IsPositive ∧ b.IsPositive := by
  simp [IsPositive, negationsOver, or_imp, forall_and]

theorem isNegative_and : (and a b).IsNegative ↔ a.IsNegative ∧ b.IsNegative := by
  simp [IsNegative, negationsOver, or_imp, forall_and]

theorem isPositive_or : (or a b).IsPositive ↔ a.IsPositive ∧ b.IsPositive := isPositive_and

theorem isNegative_or : (or a b).IsNegative ↔ a.IsNegative ∧ b.IsNegative := isNegative_and

theorem isPositive_not : (not a).IsPositive ↔ a.IsNegative := by
  simp only [IsPositive, IsNegative, negationsOver, List.forall_mem_map]
  exact forall₂_congr fun n _ => by omega

theorem isNegative_not : (not a).IsNegative ↔ a.IsPositive := by
  simp only [IsPositive, IsNegative, negationsOver, List.forall_mem_map]
  exact forall₂_congr fun n _ => by omega

theorem sat_of_subset {stored stored' : List Statement} (h : stored ⊆ stored') (e : Expr) :
    (e.IsPositive → ∀ s, e.Sat stored s → e.Sat stored' s) ∧
      (e.IsNegative → ∀ s, e.Sat stored' s → e.Sat stored s) := by
  -- The two directions go together, since a negation turns one into the other.
  induction e with
  | everything | compare | inValues => exact ⟨fun _ _ hs => hs, fun _ _ hs => hs⟩
  | inSelect t projection filter ih =>
    constructor
    · rintro he s ⟨s', hs', hsat, hvalue⟩
      exact ⟨s', h hs', ih.1 (isPositive_inSelect.mp he) s' hsat, hvalue⟩
    · intro he
      exact absurd he not_isNegative_inSelect
  | and a b iha ihb =>
    constructor
    · intro he s hs
      obtain ⟨ha, hb⟩ := isPositive_and.mp he
      exact ⟨iha.1 ha s hs.1, ihb.1 hb s hs.2⟩
    · intro he s hs
      obtain ⟨ha, hb⟩ := isNegative_and.mp he
      exact ⟨iha.2 ha s hs.1, ihb.2 hb s hs.2⟩
  | or a b iha ihb =>
    constructor
    · intro he s hs
      obtain ⟨ha, hb⟩ := isPositive_or.mp he
      exact hs.imp (iha.1 ha s) (ihb.1 hb s)
    · intro he s hs
      obtain ⟨ha, hb⟩ := isNegative_or.mp he
      exact hs.imp (iha.2 ha s) (ihb.2 hb s)
  | not a ih =>
    constructor
    · intro he s hs hsat
      exact hs (ih.2 (isPositive_not.mp he) s hsat)
    · intro he s hs hsat
      exact hs (ih.1 (isNegative_not.mp he) s hsat)

theorem sat_iff_of_nested_eq_nil {stored stored' : List Statement} (h : stored ⊆ stored')
    (he : e.nested = []) (s : Statement) : e.Sat stored' s ↔ e.Sat stored s := by
  have hpositive : e.IsPositive := by simp [IsPositive, negationsOver_eq_nil he]
  have hnegative : e.IsNegative := by simp [IsNegative, negationsOver_eq_nil he]
  exact ⟨(sat_of_subset h e).2 hnegative s, (sat_of_subset h e).1 hpositive s⟩

theorem matchesIn_append_of_nested_eq_nil (stored more : List Statement) (he : e.nested = []) :
    e.matchesIn (stored ++ more) =
      e.matchesIn stored ++ more.filter fun s => e.Sat (stored ++ more) s := by
  rw [matchesIn, List.filter_append, matchesIn]
  congr 1
  refine List.filter_congr fun s _ => ?_
  rw [decide_eq_decide]
  exact sat_iff_of_nested_eq_nil (List.subset_append_left _ _) he s

end Expr

/-! ## A store that is only added to -/

namespace Store

theorem addAll_append (st : Store) (ss more : List Statement) :
    st.addAll (ss ++ more) = (st.addAll ss).addAll more := by
  rw [addAll, List.foldl_append]
  rfl

theorem store_run_of_no_clear (st : Store) {later : List Change}
    (hlater : ∀ c ∈ later, c.isClear = false) :
    (st.run later).store = st.addAll (later.flatMap Change.handed) := by
  induction later generalizing st with
  | nil => rfl
  | cons c later ih =>
    have hc : c.isClear = false := hlater c List.mem_cons_self
    rw [List.flatMap_cons, addAll_append, ← store_apply hc]
    exact ih _ fun c hc => hlater c (List.mem_cons_of_mem _ hc)

theorem exists_toList_run (st : Store) {later : List Change}
    (hlater : ∀ c ∈ later, c.isClear = false) :
    ∃ more, (st.run later).store.toList = st.toList ++ more ∧
      ∀ s ∈ more, (st.size : Int) ≤ s.id := by
  rw [store_run_of_no_clear st hlater, toList_addAll]
  refine ⟨_, rfl, ?_⟩
  intro s hs
  obtain ⟨n, -, rfl⟩ := List.mem_mapIdx.mp hs
  simp only [Statement.withId_id, nextId]
  omega

variable {st st' : Store} {e : Expr} {r : Resolved}

theorem acceptedIds_eq (hr : (st.resolve e).outcome = .ok r) :
    st.acceptedIds r = (e.matchesIn st.toList).map Statement.id := by
  rw [acceptedIds, accepted_eq_matchesIn hr]

theorem mem_acceptedIds_iff_sat (hd : st.Dense) (hr : (st.resolve e).outcome = .ok r) (n : Int) :
    n ∈ st.acceptedIds r ↔ ∃ s, st.get? n = some s ∧ e.Sat st.toList s := by
  simp only [mem_acceptedIds_iff hd, accepts_iff_sat hr]

theorem get?_of_subset (hd : st.Dense) (hd' : st'.Dense) (h : st.toList ⊆ st'.toList) {n : Int}
    {s : Statement} (hs : st.get? n = some s) : st'.get? n = some s := by
  obtain ⟨hmem, rfl⟩ := hd.of_get? hs
  exact hd'.get?_id (h hmem)

theorem get?_of_lt (hd : st.Dense) (hd' : st'.Dense) (h : st.toList ⊆ st'.toList) {n : Int}
    {s : Statement} (hs : st'.get? n = some s) (hn : n < st.size) : st.get? n = some s := by
  have hwithin := (isSome_get?_iff st' n).mp (by rw [hs]; rfl)
  obtain ⟨s', hs'⟩ := Option.isSome_iff_exists.mp ((isSome_get?_iff st n).mpr ⟨hwithin.1, hn⟩)
  rw [hs', ← get?_of_subset hd hd' h hs', hs]

theorem positive_selects_grow (changes later : List Change)
    (hlater : ∀ c ∈ later, c.isClear = false) (e : Expr) :
    let st := after changes
    let st' := (st.run later).store
    (∀ r r', (st.resolve e).outcome = .ok r → (st'.resolve e).outcome = .ok r' →
      ∃ ids ids', st.selectIds e = .ok ids ∧ st'.selectIds e = .ok ids' ∧
        (e.IsPositive → ∀ n ∈ ids, n ∈ ids') ∧
        (e.IsNegative → ∀ n ∈ ids', n < st.size → n ∈ ids)) ∧
    (e.nested = [] → ∃ ids added, st.selectIds e = .ok ids ∧
      st'.selectIds e = .ok (ids ++ added) ∧ ∀ n ∈ added, st.size ≤ n ∧ n < st'.size) := by
  intro st st'
  have hd : st.Dense := dense_after changes
  have hd' : st'.Dense := by
    have hrun : st' = after (changes ++ later) := (store_run_append _ _ _).symm
    rw [hrun]
    exact dense_after _
  obtain ⟨more, hlist, hmore⟩ : ∃ more, st'.toList = st.toList ++ more ∧
      ∀ s ∈ more, (st.size : Int) ≤ s.id := exists_toList_run st hlater
  have hsubset : st.toList ⊆ st'.toList := by
    rw [hlist]
    exact List.subset_append_left _ _
  constructor
  · intro r r' hr hr'
    refine ⟨_, _, selectIds_of_resolve hr, selectIds_of_resolve hr', ?_, ?_⟩
    · intro he n hn
      obtain ⟨s, hs, hsat⟩ := (mem_acceptedIds_iff_sat hd hr n).mp hn
      exact (mem_acceptedIds_iff_sat hd' hr' n).mpr
        ⟨s, get?_of_subset hd hd' hsubset hs, (Expr.sat_of_subset hsubset e).1 he s hsat⟩
    · intro he n hn hlt
      obtain ⟨s, hs, hsat⟩ := (mem_acceptedIds_iff_sat hd' hr' n).mp hn
      exact (mem_acceptedIds_iff_sat hd hr n).mpr
        ⟨s, get?_of_lt hd hd' hsubset hs hlt, (Expr.sat_of_subset hsubset e).2 he s hsat⟩
  · intro he
    obtain ⟨r, hr⟩ := exists_resolve_of_nested_eq_nil st he
    obtain ⟨r', hr'⟩ := exists_resolve_of_nested_eq_nil st' he
    have hids : st'.acceptedIds r' = st.acceptedIds r ++
        (more.filter fun s => e.Sat (st.toList ++ more) s).map Statement.id := by
      rw [acceptedIds_eq hr', acceptedIds_eq hr, ← List.map_append, hlist,
        Expr.matchesIn_append_of_nested_eq_nil _ _ he]
    refine ⟨_, _, selectIds_of_resolve hr, by rw [selectIds_of_resolve hr', hids], ?_⟩
    intro n hn
    refine ⟨?_, (within_of_mem_acceptedIds hd' r' (by rw [hids]; simp [hn])).2⟩
    obtain ⟨s, hs, rfl⟩ := List.mem_map.mp hn
    exact hmore s (List.mem_of_mem_filter hs)

def news : List Change :=
  [.add (.literal (.parse "Olli") "my:kids" "7"),
    .importText "literal\t[0]\tmy:evaluation\ttrue\nliteral\t\tp\to\n"]

def otherVerdicts : Expr :=
  .and (Term.predicate.against .eq (.text "my:evaluation"))
    (.not (.inSelect (.reifiedId .subject) .statementId largeFamilies))

theorem verdicts_grow :
    (∀ c ∈ news, c.isClear = false) ∧ verdicts.IsPositive ∧ otherVerdicts.IsNegative ∧
      (∃ ids ids', (after marriages).selectIds verdicts = .ok ids ∧ ids = [3] ∧
        ((after marriages).run news).store.selectIds verdicts = .ok ids' ∧ ids' = [3, 4] ∧
        ∀ n ∈ ids, n ∈ ids') ∧
      (∃ ids ids', (after marriages).selectIds otherVerdicts = .ok ids ∧ ids = [4] ∧
        ((after marriages).run news).store.selectIds otherVerdicts = .ok ids' ∧ ids' = [6] ∧
        ∀ n ∈ ids', n < 5 → n ∈ ids) ∧
      ∃ added, ((after marriages).run news).store.selectIds
          (Term.predicate.against .eq (.text "my:evaluation")) = .ok ([3, 4] ++ added) ∧
        ∀ n ∈ added, 5 ≤ n ∧ n < 7 := by
  have hnews : ∀ c ∈ news, c.isClear = false := by decide
  have hpositive : verdicts.IsPositive := by decide
  have hnegative : otherVerdicts.IsNegative := by decide
  refine ⟨hnews, hpositive, hnegative, ?_, ?_, ?_⟩
  · obtain ⟨hgrow, -⟩ := positive_selects_grow marriages news hnews verdicts
    obtain ⟨ids, ids', hids, hids', hkept, -⟩ := hgrow _ _ rfl rfl
    exact ⟨ids, ids', hids, (Except.ok.inj hids).symm, hids', (Except.ok.inj hids').symm,
      hkept hpositive⟩
  · obtain ⟨hgrow, -⟩ := positive_selects_grow marriages news hnews otherVerdicts
    obtain ⟨ids, ids', hids, hids', -, hold⟩ := hgrow _ _ rfl rfl
    exact ⟨ids, ids', hids, (Except.ok.inj hids).symm, hids', (Except.ok.inj hids').symm,
      hold hnegative⟩
  · obtain ⟨-, hgrow⟩ := positive_selects_grow marriages news hnews
      (Term.predicate.against .eq (.text "my:evaluation"))
    obtain ⟨ids, added, hids, hadded, hnew⟩ := hgrow rfl
    obtain rfl : [3, 4] = ids := Except.ok.inj hids
    exact ⟨added, hadded, hnew⟩

end Store

end TripleStore
