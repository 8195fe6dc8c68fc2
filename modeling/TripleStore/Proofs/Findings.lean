import Mathlib.Data.List.Sort
import TripleStore.Audit
import TripleStore.Proofs.Combinations

/-! # What audits find -/

namespace TripleStore

/-! ## Ascending lists -/

theorem Lists.unique {ids ids' : List Int} {p : Int → Prop} (h : Lists ids p) (h' : Lists ids' p) :
    ids = ids' := by
  apply h.1.eq_of_mem_iff h'.1
  intro n
  rw [h.2, h'.2]

theorem Lists.filter {ids : List Int} {p : Int → Prop} (h : Lists ids p) (q : Int → Bool) :
    Lists (ids.filter q) fun n => p n ∧ q n := by
  refine ⟨h.1.filter q, ?_⟩
  intro n
  rw [List.mem_filter, h.2]

theorem lists_toList_ofList (ids : List Int) :
    Lists (Std.ExtTreeSet.ofList ids).toList fun n => n ∈ ids := by
  constructor
  · exact Std.ExtTreeSet.ordered_toList.imp fun h => compare_lt_iff_lt.mp h
  · intro n
    rw [Std.ExtTreeSet.mem_toList, Std.ExtTreeSet.mem_ofList, List.contains_iff_mem]

theorem contains_ofList_iff (ids : List Int) (n : Int) :
    (Std.ExtTreeSet.ofList ids).contains n ↔ n ∈ ids := by
  rw [Std.ExtTreeSet.contains_ofList, List.contains_iff_mem]

namespace Store

theorem isAscending_of_pairwise {ids : List Int} (h : ids.Pairwise (· < ·)) : isAscending ids := by
  induction ids with
  | nil => rfl
  | cons n ids ih =>
    obtain ⟨hn, hids⟩ := List.pairwise_cons.mp h
    cases ids with
    | nil => rfl
    | cons m ids =>
      have hrest := ih hids
      unfold isAscending at hrest ⊢
      simp only [List.tail_cons, List.zip_cons_cons, List.all_cons, Bool.and_eq_true,
        decide_eq_true_eq] at hrest ⊢
      exact ⟨hn m List.mem_cons_self, hrest⟩

/-! ## Insertions and places -/

variable {st : Store}

theorem size_add (st : Store) (s : Statement) :
    (st.add s).store.size = if s.isValid then st.size + 1 else st.size := by
  rw [← length_toList, toList_add]
  split <;> simp

/-- As long as there are ids for the statements. -/
theorem checkInsert_add (h : st.size ≤ Decimal.maxInt) (s : Statement) :
    (st.add s).store.checkInsert s.isValid st.size (st.add s).answer = [] := by
  unfold checkInsert
  rw [size_add, answer_add]
  by_cases hs : s.isValid
  · have hmin : min (st.size : Int) Decimal.maxInt = st.size := by omega
    simp [hs, nextId, hmin]
  · simp [hs]

theorem checkDenseIds_eq_nil (hd : st.Dense) (hvalid : ∀ s ∈ st.toList, s.isValid) :
    st.checkDenseIds = [] := by
  unfold checkDenseIds
  rw [List.flatMap_eq_nil_iff]
  rintro ⟨s, n⟩ hs
  have hn : st.toList[n]? = some s := List.mem_zipIdx_iff_getElem?.mp hs
  simp [checkPlace, hd n s hn, hvalid s (List.mem_of_getElem? hn)]

/-! ## Selects -/

theorem idsOf_eq_ok {e : Expr} {ids : List Int} (h : st.selectIds e = .ok ids) :
    st.idsOf e = .ok ids := by
  unfold selectIds at h
  rw [idsOf, h]
  rfl

theorem checkPredicateScan_eq_nil (st : Store) (name : String) :
    st.checkPredicateScan name = [] := by
  have hids : st.idsOf (Term.predicate.against .eq (.text name)) =
      .ok ((st.toList.filter fun s => s.predicate = name).map Statement.id) := by
    rw [idsOf_eq_ok (selectIds_of_resolve rfl), acceptedIds, accepted_predicate]
  simp only [checkPredicateScan, hids]
  simp

/-! ## The boolean laws -/

theorem checkIds_eq_nil {e : Expr} {ids : List Int} (h : st.selectIds e = .ok ids) :
    st.checkIds e ids = [] := by
  simp [checkIds, idsOf_eq_ok h]

section Laws

variable (hd : st.Dense) {a b : Expr} {ra rb : Resolved}
include hd

theorem lists_acceptedIds_everything :
    Lists (st.acceptedIds .everything) fun n => 0 ≤ n ∧ n < st.size := by
  refine ⟨pairwise_acceptedIds hd _, ?_⟩
  intro n
  simp only [mem_acceptedIds_iff hd, ← isSome_get?_iff]
  cases st.get? n <;> simp [Resolved.accepts]

theorem checkCombinations_eq_nil (ha : (st.resolve a).outcome = .ok ra)
    (hb : (st.resolve b).outcome = .ok rb) :
    st.checkCombinations a b (st.acceptedIds .everything) (st.acceptedIds ra)
      (st.acceptedIds rb) = [] := by
  -- Both sides of each law list the same ids in ascending order, so they are one list.
  have hnot : st.selectIds (.not a) = .ok ((st.acceptedIds .everything).filter fun n =>
      !(Std.ExtTreeSet.ofList (st.acceptedIds ra)).contains n) := by
    rw [selectIds_of_resolve (r := .not ra) (by rw [outcome_resolve_not, ha]; rfl)]
    congr 1
    apply (lists_acceptedIds_not hd ra).unique
    have h := (lists_acceptedIds_everything hd).filter fun n =>
      !(Std.ExtTreeSet.ofList (st.acceptedIds ra)).contains n
    simpa only [Bool.not_eq_true', ← Bool.not_eq_true, contains_ofList_iff] using h
  have hand : st.selectIds (.and a b) = .ok
      ((Std.ExtTreeSet.ofList (st.acceptedIds ra)).toList.filter
        (Std.ExtTreeSet.ofList (st.acceptedIds rb)).contains) := by
    rw [selectIds_of_resolve (r := .and ra rb) (by rw [outcome_resolve_and, ha, hb]; rfl)]
    congr 1
    apply (lists_acceptedIds_and hd ra rb).unique
    have h := (lists_toList_ofList (st.acceptedIds ra)).filter
      (Std.ExtTreeSet.ofList (st.acceptedIds rb)).contains
    simpa only [contains_ofList_iff] using h
  have hor : st.selectIds (.or a b) = .ok
      (Std.ExtTreeSet.ofList (st.acceptedIds ra ++ st.acceptedIds rb)).toList := by
    rw [selectIds_of_resolve (r := .or ra rb) (by rw [outcome_resolve_or, ha, hb]; rfl)]
    congr 1
    apply (lists_acceptedIds_or hd ra rb).unique
    simpa only [List.mem_append] using
      lists_toList_ofList (st.acceptedIds ra ++ st.acceptedIds rb)
  unfold checkCombinations
  simp only [checkIds_eq_nil hnot, checkIds_eq_nil hand, checkIds_eq_nil hor, List.append_nil]

theorem checkAlgebra_eq_nil (ha : (st.resolve a).outcome = .ok ra)
    (hb : (st.resolve b).outcome = .ok rb) : st.checkAlgebra a b = [] := by
  have hascending : isAscending (st.acceptedIds ra) :=
    isAscending_of_pairwise (pairwise_acceptedIds hd ra)
  unfold checkAlgebra
  rw [idsOf_eq_ok (selectIds_of_resolve (r := .everything) rfl),
    idsOf_eq_ok (selectIds_of_resolve ha), idsOf_eq_ok (selectIds_of_resolve hb)]
  simp only [bind, Except.bind, pure, Except.pure, hascending, if_true,
    checkCombinations_eq_nil hd ha hb, List.append_nil]

end Laws

end Store

end TripleStore
