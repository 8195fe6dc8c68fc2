import TripleStore.Proofs.Comparisons

/-! # Lookups and scans by id -/

namespace TripleStore

namespace Store

variable {st : Store}

/-! ## Around a place -/

theorem toList_eq_around (st : Store) (n : Int) :
    st.toList =
      st.toList.take n.toNat ++ ((st.get? n).toList ++ st.toList.drop (n + 1).toNat) := by
  by_cases hn : n < 0
  · have hzero : n.toNat = 0 ∧ (n + 1).toNat = 0 := by omega
    simp [get?, hn, hzero]
  · obtain ⟨k, rfl⟩ := Int.eq_ofNat_of_zero_le (by omega : 0 ≤ n)
    have hk : ((k : Int) + 1).toNat = k + 1 := by omega
    rw [hk, Int.toNat_natCast, get?_eq_getElem?, ← List.drop_eq_getElem?_toList_append,
      List.take_append_drop]

theorem drop_eq_get?_append (st : Store) (n : Int) :
    st.toList.drop n.toNat = (st.get? n).toList ++ st.toList.drop (n + 1).toNat := by
  apply (List.append_right_inj (st.toList.take n.toNat)).mp
  rw [← toList_eq_around, List.take_append_drop]

namespace Dense

variable (hd : st.Dense) {s : Statement} {n : Int}
include hd

theorem compare_of_mem_take (hs : s ∈ st.toList.take n.toNat) : compare s.id n = .lt := by
  obtain ⟨k, hk⟩ := List.getElem?_of_mem hs
  rw [List.getElem?_take] at hk
  split at hk
  · rw [Int.compare_eq_lt, hd k s hk]
    omega
  · cases hk

theorem compare_of_mem_get? (hs : s ∈ (st.get? n).toList) : compare s.id n = .eq := by
  rw [Int.compare_eq_eq]
  exact (hd.of_get? (Option.mem_toList.mp hs)).2

theorem compare_of_mem_drop (hs : s ∈ st.toList.drop (n + 1).toNat) : compare s.id n = .gt := by
  obtain ⟨k, hk⟩ := List.getElem?_of_mem hs
  rw [List.getElem?_drop] at hk
  rw [Int.compare_eq_gt, hd ((n + 1).toNat + k) s hk]
  omega

end Dense

/-! ## Scans by id -/

def selectById (st : Store) (op : CompareOp) (n : Int) : Except QueryError (List Statement) :=
  (st.select .wholeStatement (Term.statementId.against op (.int n))).outcome

theorem selectById_eq_filter (st : Store) (op : CompareOp) (n : Int) :
    st.selectById op n = .ok (st.toList.filter fun s => op.accepts (compare s.id n)) := by
  have haccepted : st.accepted (.compare .statementId op (.value (.int n))) =
      st.toList.filter fun s => op.accepts (compare s.id n) := by
    refine List.filter_congr fun s _ => ?_
    exact CompareOp.holds_of_order?_eq_some rfl op
  unfold selectById
  rw [outcome_select, ← haccepted]
  exact mapM_eq_ok_iff.mpr rfl

theorem filter_eq_ite {l : List Statement} {p : Statement → Bool} {b : Bool}
    (h : ∀ s ∈ l, p s = b) : l.filter p = if b then l else [] := by
  cases b with
  | true => exact List.filter_eq_self.mpr h
  | false => exact List.filter_eq_nil_iff.mpr fun s hs => by simp [h s hs]

/-- A scan keeps what is before the place, at it and behind it, each part whole or not at all. -/
theorem Dense.selectById_eq (hd : st.Dense) (op : CompareOp) (n : Int) :
    st.selectById op n =
      .ok ((if op.accepts .lt then st.toList.take n.toNat else []) ++
        ((if op.accepts .eq then (st.get? n).toList else []) ++
          if op.accepts .gt then st.toList.drop (n + 1).toNat else [])) := by
  rw [selectById_eq_filter]
  conv_lhs => rw [toList_eq_around st n, List.filter_append, List.filter_append]
  rw [filter_eq_ite fun s hs => congrArg op.accepts (hd.compare_of_mem_take hs),
    filter_eq_ite fun s hs => congrArg op.accepts (hd.compare_of_mem_get? hs),
    filter_eq_ite fun s hs => congrArg op.accepts (hd.compare_of_mem_drop hs)]

/-- A scan for an id finds what a lookup of it finds, and an integer cuts the store in two. -/
theorem lookups_agree_with_scans (changes : List Change) (n : Int) :
    let st := after changes
    let cut := (min (max n 0) st.size).toNat
    (0 ≤ n → n < st.size → ∃ s, st.get? n = some s ∧ st.selectById .eq n = .ok [s]) ∧
    (st.selectById .eq n = .ok [] ↔ st.get? n = none) ∧
    (∃ below others, st.selectById .lt n = .ok below ∧ below = st.toList.take cut ∧
      st.selectById .ge n = .ok others ∧ others = st.toList.drop cut ∧
      below ++ others = st.toList) ∧
    (0 ≤ n → st.selectById .ne n = .ok (st.toList.eraseIdx n.toNat)) ∧
    (n < 0 → st.selectById .ne n = .ok st.toList) ∧
    ∀ op, ∃ found, st.selectById op n = .ok found ∧ ∀ s ∈ found, st.get? s.id = some s := by
  intro st cut
  have hd : st.Dense := dense_after changes
  have heq : st.selectById .eq n = .ok (st.get? n).toList := by
    simp [hd.selectById_eq, CompareOp.accepts]
  have hne : st.selectById .ne n =
      .ok (st.toList.take n.toNat ++ st.toList.drop (n + 1).toNat) := by
    simp [hd.selectById_eq, CompareOp.accepts]
  have hlt : st.selectById .lt n = .ok (st.toList.take n.toNat) := by
    simp [hd.selectById_eq, CompareOp.accepts]
  have hge : st.selectById .ge n = .ok (st.toList.drop n.toNat) := by
    rw [drop_eq_get?_append]
    simp [hd.selectById_eq, CompareOp.accepts]
  have hcut : min n.toNat st.toList.length = min cut st.toList.length := by
    rw [length_toList]
    omega
  refine ⟨?_, ?_, ?_, ?_, ?_, ?_⟩
  · intro hn hsize
    obtain ⟨s, hs⟩ := Option.isSome_iff_exists.mp ((isSome_get?_iff st n).mpr ⟨hn, hsize⟩)
    exact ⟨s, hs, by rw [heq, hs, Option.toList_some]⟩
  · rw [heq, Except.ok.injEq, Option.toList_eq_nil_iff]
  · exact ⟨_, _, hlt, List.take_eq_take_iff.mpr hcut, hge, List.drop_eq_drop_iff.mpr hcut,
      List.take_append_drop _ _⟩
  · intro hn
    have hnext : (n + 1).toNat = n.toNat + 1 := by omega
    rw [hne, List.eraseIdx_eq_take_drop_succ, hnext]
  · intro hn
    have hzero : n.toNat = 0 ∧ (n + 1).toNat = 0 := by omega
    rw [hne, hzero.1, hzero.2]
    rfl
  · intro op
    exact ⟨_, selectById_eq_filter st op n, fun s hs => hd.get?_id (List.mem_of_mem_filter hs)⟩

theorem marriages_looked_up :
    let st := after marriages
    let last : Statement := ⟨.ref 2, "my:evaluation", some (.literal "true"), 4⟩
    (0 ≤ (1 : Int) ∧ (1 : Int) < st.size ∧
      st.selectById .eq 1 = .ok [⟨.name "Topi", "my:wife", some (.resource (.name "Anna")), 1⟩]) ∧
    (st.get? 5 = none ∧ st.selectById .eq 5 = .ok [] ∧
      st.selectById .ne 5 = .ok (st.toList.eraseIdx 5) ∧ st.toList.eraseIdx 5 = st.toList) ∧
    ((-1 : Int) < 0 ∧ st.selectById .ne (-1) = .ok st.toList) ∧
    st.selectById .ge (-9223372036854775808) = .ok st.toList ∧
    ∃ found, st.selectById .gt 3 = .ok found ∧ last ∈ found ∧ st.get? 4 = some last := by
  intro st last
  obtain ⟨hone, -⟩ := lookups_agree_with_scans marriages 1
  obtain ⟨-, hnone, -, hbehind, -⟩ := lookups_agree_with_scans marriages 5
  obtain ⟨-, -, -, -, hbefore, -⟩ := lookups_agree_with_scans marriages (-1)
  obtain ⟨-, -, ⟨below, others, -, hbelow, hge, -, hall⟩, -⟩ :=
    lookups_agree_with_scans marriages (-9223372036854775808)
  obtain ⟨-, -, -, -, -, hfound⟩ := lookups_agree_with_scans marriages 3
  obtain ⟨s, hs, hselect⟩ := hone (by decide) (by decide)
  obtain ⟨found, hgt, hstored⟩ := hfound .gt
  refine ⟨⟨by decide, by decide, ?_⟩, ⟨rfl, hnone.mpr rfl, hbehind (by decide), rfl⟩,
    ⟨by decide, hbefore (by decide)⟩, ?_, found, hgt, ?_⟩
  · rw [hselect, ← Option.some.inj hs]
    rfl
  · rw [hge, ← hall, hbelow]
    rfl
  · have hlast : last ∈ found := by
      rw [← Except.ok.inj hgt]
      exact List.mem_singleton_self last
    exact ⟨hlast, hstored last hlast⟩

end Store

end TripleStore
