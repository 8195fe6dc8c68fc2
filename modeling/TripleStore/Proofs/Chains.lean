import TripleStore.Proofs.Changes

/-! # Chains of references -/

namespace TripleStore

/-- A subject that is a reference has an id from 0 up to `bound`, and the object is no reference. -/
structure Statement.RefersBelow (s : Statement) (bound : Int) : Prop where
  subject : ∀ id, s.subject = .ref id → 0 ≤ id ∧ id < bound
  object : ∀ id, s.object ≠ some (.resource (.ref id))

namespace Store

def PointsBack (st : Store) : Prop := ∀ s ∈ st.toList, s.RefersBelow s.id

/-- After `n` references, each to a stored statement, comes one about something with a name. -/
inductive EndsAfter (st : Store) : Nat → Statement → Prop
  | named {s : Statement} {text : String} (hs : s.subject = .name text) : EndsAfter st 0 s
  | refers {n : Nat} {id : Int} {s target : Statement} (hs : s.subject = .ref id)
      (htarget : st.get? id = some target) (hend : EndsAfter st n target) : EndsAfter st (n + 1) s

variable {st : Store} {s : Statement}

theorem pointsBack_empty : empty.PointsBack := by
  intro s hs
  cases hs

theorem PointsBack.add (h : st.PointsBack) (hs : s.RefersBelow st.nextId) :
    (st.add s).store.PointsBack := by
  intro t ht
  rw [toList_add, List.mem_append] at ht
  rcases ht with ht | ht
  · exact h t ht
  · split at ht
    · obtain rfl := List.mem_singleton.mp ht
      exact ⟨hs.subject, hs.object⟩
    · cases ht

theorem Dense.within (hd : st.Dense) (hs : s ∈ st.toList) : 0 ≤ s.id ∧ s.id < st.size := by
  rw [← isSome_get?_iff, hd.get?_id hs]
  rfl

theorem PointsBack.exists_endsAfter (h : st.PointsBack) (hd : st.Dense) (hs : s ∈ st.toList) :
    ∃ n : Nat, (n : Int) ≤ s.id ∧ st.EndsAfter n s := by
  obtain ⟨place, hplace⟩ := Int.eq_ofNat_of_zero_le (hd.within hs).1
  -- By induction on the id, which falls with each reference.
  induction place using Nat.strongRecOn generalizing s with
  | _ place ih =>
    cases hsubject : s.subject with
    | name text => exact ⟨0, (hd.within hs).1, .named hsubject⟩
    | ref id =>
      obtain ⟨hnonneg, hlt⟩ := (h s hs).subject id hsubject
      obtain ⟨target, htarget⟩ : ∃ target, st.get? id = some target := by
        have hwithin := hd.within hs
        rw [← Option.isSome_iff_exists, isSome_get?_iff]
        omega
      obtain ⟨earlier, rfl⟩ := Int.eq_ofNat_of_zero_le hnonneg
      obtain ⟨hmem, hid⟩ := hd.of_get? htarget
      obtain ⟨n, hn, hend⟩ := ih earlier (by omega) hmem hid
      exact ⟨n + 1, by omega, .refers hsubject htarget hend⟩

end Store

end TripleStore
