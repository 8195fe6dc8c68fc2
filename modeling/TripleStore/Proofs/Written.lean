import TripleStore.Proofs.Record

/-! # Resources as they are written -/

namespace TripleStore

namespace Resource

/-- The resource is what its text is read as. -/
def IsWritten (r : Resource) : Prop := parse r.text = r

theorem isWritten_of_isPlain {r : Resource} (hr : r.IsPlain)
    (hid : ∀ id, r.refId? = some id → 0 ≤ id ∧ id ≤ Decimal.maxInt) : r.IsWritten := by
  cases r with
  | name t =>
    have hnone : refOf? t = none := refOf?_eq_none_iff.mpr hr
    simp only [IsWritten, parse, text, hnone]
  | ref id =>
    obtain ⟨hnonneg, hmax⟩ := hid id rfl
    obtain ⟨n, rfl⟩ := Int.eq_ofNat_of_zero_le hnonneg
    have hsome : refOf? (bracketed (toString (n : Int))) = some n :=
      refOf?_eq_some_iff.mpr ⟨by omega, rfl⟩
    simp only [IsWritten, parse, text, hsome]

theorem text_parse (t : String) : (parse t).text = t := by
  unfold parse
  cases ht : refOf? t with
  | none => rfl
  | some id => exact (refOf?_eq_some_iff.mp ht).2.symm

theorem isWritten_parse (t : String) : (parse t).IsWritten := by
  rw [IsWritten, text_parse]

theorem isWritten_ofId {n : Int} (hn : n ≤ Decimal.maxInt) : (ofId n).IsWritten := by
  refine isWritten_of_isPlain (isPlain_ofId n) ?_
  intro id hid
  unfold ofId at hid
  split at hid
  · cases hid
  · obtain rfl : n = id := Option.some.inj hid
    omega

theorem IsWritten.refOf?_text {r : Resource} (hr : r.IsWritten) :
    (refOf? r.text).map Int.ofNat = r.refId? := by
  unfold IsWritten parse at hr
  cases h : refOf? r.text with
  | none =>
    rw [h] at hr
    rw [← hr]
    rfl
  | some id =>
    rw [h] at hr
    rw [← hr]
    rfl

end Resource

theorem SubjectPart.isWritten_resource {part : SubjectPart} (h : part.IsWord) :
    part.resource.IsWritten := by
  cases part with
  | text t => exact Resource.isWritten_parse t
  | id n => exact Resource.isWritten_ofId h.2

namespace Statement

theorem IsWordBuilt.withId {s : Statement} (h : s.IsWordBuilt) (id : Int) :
    (s.withId id).IsWordBuilt := by
  obtain ⟨subject, predicate, object, kind, -, hsubject, rfl⟩ := h
  exact ⟨subject, predicate, object, kind, id, hsubject, rfl⟩

theorem IsWordBuilt.isWritten_subject {s : Statement} (h : s.IsWordBuilt) :
    s.subject.IsWritten := by
  obtain ⟨subject, predicate, object, kind, id, hsubject, rfl⟩ := h
  exact SubjectPart.isWritten_resource hsubject

theorem IsWordBuilt.ofText_objectText {s : Statement} (h : s.IsWordBuilt) :
    Object.ofText s.objectText s.kind = s.object := by
  obtain ⟨subject, predicate, object, kind, id, -, rfl⟩ := h
  cases kind with
  | invalid | literal => rfl
  | resource =>
    have hobject : Resource.parse (Resource.parse object).text = Resource.parse object :=
      Resource.isWritten_parse object
    simp [new, objectText, Statement.kind, Object.ofText, Object.text, Object.kind, hobject]

end Statement

theorem Store.isWordBuilt_of_mem {changes : List Change}
    (hb : ∀ s, Change.add s ∈ changes → s.IsWordBuilt) {s : Statement}
    (hs : s ∈ (after changes).toList) : s.IsWordBuilt := by
  obtain ⟨s', hs', id, rfl⟩ := exists_kept_of_mem hs
  exact (Change.isWordBuilt_of_mem_kept hb hs').withId id

end TripleStore
