import TripleStore.Proofs.Agreement
import TripleStore.Proofs.Growth

/-!
# Self-joins

An id is that of one statement only, so a join by it finds no more than was joined.
-/

namespace TripleStore

/-- The statements that share a value of the term with a match of `f`. -/
def Expr.joinedOn (f : Expr) (t : Term) : Expr := t.isIn (.select t f)

namespace Expr

variable {stored : List Statement} {f : Expr} {t : Term}

theorem sat_joinedOn_iff {s : Statement} :
    (f.joinedOn t).Sat stored s ↔
      ∃ s' ∈ stored, f.Sat stored s' ∧ ∃ v, t.value? s' = some v ∧ t.value? s = some v := Iff.rfl

theorem sat_joinedOn_of_sat (ht : ∀ s ∈ stored, t.value? s ≠ none) {s : Statement}
    (hs : s ∈ stored) (hsat : f.Sat stored s) : (f.joinedOn t).Sat stored s := by
  obtain ⟨v, hv⟩ := Option.ne_none_iff_exists'.mp (ht s hs)
  exact sat_joinedOn_iff.mpr ⟨s, hs, hsat, v, hv, hv⟩

end Expr

theorem Term.value?_statementId (s : Statement) : statementId.value? s = some (.int s.id) := rfl

namespace Store

variable {st : Store}

theorem Dense.eq_of_id_eq (hd : st.Dense) {s s' : Statement} (hs : s ∈ st.toList)
    (hs' : s' ∈ st.toList) (h : s.id = s'.id) : s = s' := by
  have hget := hd.get?_id hs
  rw [h, hd.get?_id hs'] at hget
  exact (Option.some.inj hget).symm

theorem agree_joinedOn_statementId (hd : st.Dense) (f : Expr) :
    (f.joinedOn .statementId).Agree st.toList f := by
  have hvalue : ∀ s ∈ st.toList, Term.statementId.value? s ≠ none := by
    intro s _
    rw [Term.value?_statementId]
    exact Option.some_ne_none _
  refine ⟨fun s hs => ⟨?_, Expr.sat_joinedOn_of_sat hvalue hs⟩,
    Expr.findSome?_nested_inSelect hvalue .statementId f⟩
  rw [Expr.sat_joinedOn_iff]
  rintro ⟨s', hs', hsat, v, hv', hv⟩
  rw [Term.value?_statementId] at hv hv'
  have hid : s.id = s'.id := by
    rw [← hv'] at hv
    simpa using hv
  -- The match with the id is the statement itself.
  rw [hd.eq_of_id_eq hs hs' hid]
  exact hsat

theorem selectIds_subset_joinedOn (hd : st.Dense) {f : Expr} {t : Term} {r : Resolved}
    (ht : ∀ s ∈ st.toList, t.value? s ≠ none) (hr : (st.resolve f).outcome = .ok r) :
    ∃ ids ids', st.selectIds f = .ok ids ∧ st.selectIds (f.joinedOn t) = .ok ids' ∧
      ids ⊆ ids' := by
  obtain ⟨r', hr'⟩ := exists_resolve_inSelect ht hr t
  refine ⟨_, _, selectIds_of_resolve hr, selectIds_of_resolve hr', fun n hn => ?_⟩
  rw [mem_acceptedIds_iff_sat hd hr] at hn
  rw [mem_acceptedIds_iff_sat hd hr']
  obtain ⟨s, hs, hsat⟩ := hn
  exact ⟨s, hs, Expr.sat_joinedOn_of_sat ht (hd.of_get? hs).1 hsat⟩

/-- Wherever an expression stands, its join with itself by the id can stand for it. -/
theorem self_joins_vanish (changes : List Change) (f : Expr) :
    let st := after changes
    (∀ (c : Context) (β : Type) (p : Projection β),
      (st.select p (c.fill (f.joinedOn .statementId))).outcome =
        (st.select p (c.fill f)).outcome) ∧
    ∀ (t : Term) (r : Resolved), (∀ s ∈ st.toList, t.value? s ≠ none) →
      (st.resolve f).outcome = .ok r →
      ∃ ids ids', st.selectIds f = .ok ids ∧ st.selectIds (f.joinedOn t) = .ok ids' ∧
        ids ⊆ ids' := by
  intro st
  have hd : st.Dense := dense_after changes
  constructor
  · intro c β p
    exact outcome_select_of_agree (c.agree_fill (agree_joinedOn_statementId hd f)) p
  · intro t r ht hr
    exact selectIds_subset_joinedOn hd ht hr

theorem largeFamilies_self_joined :
    (∀ s ∈ (after marriages).toList, Term.subject.value? s ≠ none) ∧
      (after marriages).selectIds (Context.saidOfOthers.fill (largeFamilies.joinedOn .statementId)) =
        .ok [4] ∧
      ∃ ids ids', (after marriages).selectIds largeFamilies = .ok ids ∧ ids = [1] ∧
        (after marriages).selectIds (largeFamilies.joinedOn .subject) = .ok ids' ∧
        ids' = [0, 1] ∧ ids ⊆ ids' := by
  have hvalue : ∀ s ∈ (after marriages).toList, Term.subject.value? s ≠ none := nofun
  obtain ⟨hfill, hsubset⟩ := self_joins_vanish marriages largeFamilies
  refine ⟨hvalue, (hfill .saidOfOthers Int .ids).trans rfl, ?_⟩
  obtain ⟨ids, ids', hids, hids', hle⟩ := hsubset .subject _ hvalue rfl
  exact ⟨ids, ids', hids, (Except.ok.inj hids).symm, hids', (Except.ok.inj hids').symm, hle⟩

end Store

end TripleStore
