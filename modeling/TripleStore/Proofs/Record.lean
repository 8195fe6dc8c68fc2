import TripleStore.Proofs.Canonical
import TripleStore.Proofs.Changes

/-! # What a store records -/

namespace TripleStore

/-! ## Names and references -/

namespace Resource

def IsReference (text : String) : Prop := ∃ id ≤ Decimal.maxInt, text = bracketed (toString id)

theorem refOf?_eq_none_iff {text : String} : refOf? text = none ↔ ¬ IsReference text := by
  simp [Option.eq_none_iff_forall_ne_some, refOf?_eq_some_iff, IsReference]

/-- The resource is a reference, or a name that is not written like one. -/
def IsPlain : Resource → Prop
  | name text => ¬ IsReference text
  | ref _ => True

theorem isPlain_parse (text : String) : (parse text).IsPlain := by
  unfold parse
  cases h : refOf? text with
  | some id => trivial
  | none => exact refOf?_eq_none_iff.mp h

theorem isPlain_ofId (id : Int) : (ofId id).IsPlain := by
  unfold ofId
  split
  · rename_i hid
    obtain ⟨n, rfl⟩ := Int.eq_negSucc_of_lt_zero hid
    -- A sign is no digit.
    rintro ⟨m, -, h⟩
    have hsign : '-' ∈ (toString m).toList := by
      have := (String.append_right_inj _).mp ((String.append_left_inj _).mp h)
      rw [← this]
      simp [toString, Int.repr]
    rw [Decimal.toString_eq_ofList_digits, String.toList_ofList] at hsign
    exact absurd (Decimal.isDigit_of_mem_digits hsign) (by decide)
  · trivial

theorem text_eq_empty_iff (r : Resource) : r.text = "" ↔ r.isEmpty := by
  cases r with
  | name t => simp [text, isEmpty]
  | ref id => simp [text, isEmpty, bracketed, ← String.toList_inj]

end Resource

/-! ## Built statements -/

inductive SubjectPart where
  | text (text : String)
  | id (id : Int)
  deriving DecidableEq, Repr, Inhabited

def SubjectPart.resource : SubjectPart → Resource
  | text t => .parse t
  | id n => .ofId n

def SubjectPart.IsWord : SubjectPart → Prop
  | text _ => True
  | id n => -(Decimal.maxInt + 1 : Int) ≤ n ∧ n ≤ Decimal.maxInt

namespace Statement

def IsBuilt (s : Statement) : Prop :=
  ∃ (subject : SubjectPart) (predicate object : String) (kind : ObjectKind) (id : Int),
    s = (new subject.resource predicate object kind).withId id

/-- The statement is built from texts and signed 64-bit numbers. -/
def IsWordBuilt (s : Statement) : Prop :=
  ∃ (subject : SubjectPart) (predicate object : String) (kind : ObjectKind) (id : Int),
    subject.IsWord ∧ s = (new subject.resource predicate object kind).withId id

theorem IsWordBuilt.isBuilt {s : Statement} (h : s.IsWordBuilt) : s.IsBuilt := by
  obtain ⟨subject, predicate, object, kind, id, -, hs⟩ := h
  exact ⟨subject, predicate, object, kind, id, hs⟩

def NamesArePlain (s : Statement) : Prop :=
  s.subject.IsPlain ∧ ∀ target, s.object = some (.resource target) → target.IsPlain

theorem IsBuilt.namesArePlain {s : Statement} (h : s.IsBuilt) : s.NamesArePlain := by
  obtain ⟨subject, predicate, object, kind, id, rfl⟩ := h
  refine ⟨?_, ?_⟩
  · cases subject with
    | text t => exact Resource.isPlain_parse t
    | id n => exact Resource.isPlain_ofId n
  · intro target h
    cases kind with
    | invalid | literal => simp [new, Object.ofText] at h
    | resource =>
      simp only [withId_object, new, Object.ofText, Option.some.injEq, Object.resource.injEq] at h
      rw [← h, Resource.ofOwned_eq_parse]
      exact Resource.isPlain_parse object

theorem isValid_iff (s : Statement) : s.isValid ↔ s.subjectText ≠ "" ∧ s.objectText ≠ "" := by
  have hobject : s.objectText ≠ "" ↔ s.object.any fun o => !o.isEmpty := by
    unfold objectText
    cases s.object with
    | none => simp
    | some o =>
      cases o with
      | literal text => simp [Object.text, Object.isEmpty]
      | resource target => simp [Object.text, Object.isEmpty, Resource.text_eq_empty_iff]
  rw [isValid, Bool.and_eq_true, hobject, subjectText, Ne, Resource.text_eq_empty_iff]
  simp

end Statement

namespace Table

theorem isWordBuilt_of_ofFields {fields : List (List Char)} {s : Statement}
    (h : ofFields fields = .ok s) : s.IsWordBuilt := by
  unfold ofFields at h
  split at h
  · dsimp only at h
    split at h
    · rename_i subject predicate object _ k _
      obtain rfl := Except.ok.inj h
      exact ⟨.text (.ofList subject), .ofList predicate, .ofList object, k, unassigned, trivial,
        rfl⟩
    · cases h
  · cases h

theorem isWordBuilt_of_readLine {line : List Char} {s : Statement}
    (h : readLine line = .ok (some s)) : s.IsWordBuilt := by
  unfold readLine at h
  dsimp only at h
  split at h
  · cases h
  · cases hf : ofFields ((Text.dropTrailing isLineEnd line).splitOn '\t') with
    | error e => simp [hf, Except.map] at h
    | ok s' =>
      simp only [hf, Except.map, Except.ok.injEq, Option.some.injEq] at h
      exact h ▸ isWordBuilt_of_ofFields hf

theorem isWordBuilt_of_mem_statementsOn {lines : List (List Char)} {s : Statement}
    (h : s ∈ statementsOn lines) : s.IsWordBuilt := by
  obtain ⟨line, -, hread⟩ := exists_line_of_mem_statementsOn h
  exact isWordBuilt_of_readLine hread

end Table

namespace Change

theorem of_mem_kept {changes : List Change} {P : Statement → Prop}
    (hadd : ∀ s, add s ∈ changes → P s) (hline : ∀ lines, ∀ s ∈ Table.statementsOn lines, P s)
    {s : Statement} (hs : s ∈ kept changes) : P s := by
  obtain ⟨hs, -⟩ := List.mem_filter.mp hs
  obtain ⟨c, hc, hs⟩ := List.mem_flatMap.mp hs
  have hc : c ∈ changes := (List.rtakeWhile_suffix _ _).subset hc
  cases c with
  | add s' =>
    obtain rfl := List.mem_singleton.mp hs
    exact hadd s hc
  | importText text => exact hline _ s hs
  | clear => simp [handed] at hs

theorem isBuilt_of_mem_kept {changes : List Change} (hb : ∀ s, add s ∈ changes → s.IsBuilt)
    {s : Statement} (hs : s ∈ kept changes) : s.IsBuilt :=
  of_mem_kept hb (fun _ _ h => (Table.isWordBuilt_of_mem_statementsOn h).isBuilt) hs

theorem isWordBuilt_of_mem_kept {changes : List Change}
    (hb : ∀ s, add s ∈ changes → s.IsWordBuilt) {s : Statement} (hs : s ∈ kept changes) :
    s.IsWordBuilt :=
  of_mem_kept hb (fun _ _ h => Table.isWordBuilt_of_mem_statementsOn h) hs

end Change

/-! ## The record -/

namespace Store

theorem exists_kept_of_mem {changes : List Change} {s : Statement}
    (hs : s ∈ (after changes).toList) :
    ∃ s' ∈ Change.kept changes, ∃ id, s = s'.withId id := by
  rw [toList_after, numbered, List.mem_mapIdx] at hs
  obtain ⟨n, hn, rfl⟩ := hs
  exact ⟨_, List.getElem_mem hn, n, rfl⟩

theorem isValid_of_mem {changes : List Change} {s : Statement}
    (hs : s ∈ (after changes).toList) : s.isValid := by
  obtain ⟨s', hs', id, rfl⟩ := exists_kept_of_mem hs
  exact (List.mem_filter.mp hs').2

theorem namesArePlain_of_mem {changes : List Change}
    (hb : ∀ s, Change.add s ∈ changes → s.IsBuilt) {s : Statement}
    (hs : s ∈ (after changes).toList) : s.NamesArePlain := by
  obtain ⟨s', hs', id, rfl⟩ := exists_kept_of_mem hs
  exact (Change.isBuilt_of_mem_kept hb hs').namesArePlain

/-- Whatever was done to it, a store is the record of what was kept since it was last cleared. -/
theorem after_records_kept (changes : List Change)
    (hb : ∀ s, Change.add s ∈ changes → s.IsBuilt) :
    let st := after changes
    st.toList = numbered (Change.kept changes) ∧
    (∀ (n : Nat) s, st.toList[n]? = some s → s.id = n) ∧
    (∀ s ∈ st.toList, s.subjectText ≠ "" ∧ s.objectText ≠ "") ∧
    (∀ s, (s.isValid → (st.add s).answer = st.size) ∧
      (¬ s.isValid → (st.add s).answer = -1 ∧ (st.add s).store = st)) ∧
    st.nextId = st.size ∧
    (∀ id, (st.get? id).isSome ↔ 0 ≤ id ∧ id < st.size) ∧
    (∀ later,
      (st.run (.clear :: later)).store = (empty.run later).store ∧
      (st.run (.clear :: later)).answer = .cleared :: (empty.run later).answer ∧
      (st.run (.clear :: later)).log = .clearing st.size :: (empty.run later).log) ∧
    ∀ s ∈ st.toList, ∀ text, s.subject = .name text ∨ s.object = some (.resource (.name text)) →
      ¬ Resource.IsReference text := by
  intro st
  refine ⟨toList_after changes, dense_after changes, ?_, ?_, rfl, isSome_get?_iff st,
    fun later => ⟨rfl, rfl, rfl⟩, ?_⟩
  · intro s hs
    exact s.isValid_iff.mp (isValid_of_mem hs)
  · intro s
    rw [answer_add]
    exact ⟨fun h => if_pos h, fun h => ⟨if_neg h, store_add_of_not_isValid st h⟩⟩
  · intro s hs text hname
    obtain ⟨hsubject, hobject⟩ := namesArePlain_of_mem hb hs
    rcases hname with h | h
    · rw [h] at hsubject
      exact hsubject
    · exact hobject _ h

def mixedChanges : List Change :=
  [.add ((Statement.literal (.parse "a") "p" "o").withId 99), .clear,
    .add (.literal (.ofId (-3)) "p" ""), .add ((Statement.literal (.ofId 7) "p" "o").withId 0),
    .importText
      "literal\tb\t\to\nresource\t[07]\tp\t[0]\nliteral\t\tp\to\nliteral\tc\tp\to\n"]

theorem mixedChanges_recorded :
    (∀ s, Change.add s ∈ mixedChanges → s.IsBuilt) ∧
      (after mixedChanges).toList =
        [⟨.ref 7, "p", some (.literal "o"), 0⟩, ⟨.name "b", "", some (.literal "o"), 1⟩,
          ⟨.name "[07]", "p", some (.resource (.ref 0)), 2⟩] ∧
      ¬ Resource.IsReference "[07]" := by
  have h : ∀ s, Change.add s ∈ mixedChanges → s.IsBuilt := by
    intro s hs
    simp only [mixedChanges, List.mem_cons, Change.add.injEq, reduceCtorEq, List.not_mem_nil,
      or_false, false_or] at hs
    rcases hs with rfl | rfl | rfl
    · exact ⟨.text "a", "p", "o", .literal, 99, rfl⟩
    · exact ⟨.id (-3), "p", "", .literal, unassigned, rfl⟩
    · exact ⟨.id 7, "p", "o", .literal, 0, rfl⟩
  obtain ⟨hstored, -, -, -, -, -, -, hnames⟩ := after_records_kept mixedChanges h
  have hlist : (after mixedChanges).toList =
      [⟨.ref 7, "p", some (.literal "o"), 0⟩, ⟨.name "b", "", some (.literal "o"), 1⟩,
        ⟨.name "[07]", "p", some (.resource (.ref 0)), 2⟩] := hstored.trans (by rfl)
  refine ⟨h, hlist, ?_⟩
  exact hnames ⟨.name "[07]", "p", some (.resource (.ref 0)), 2⟩ (by rw [hlist]; simp) _ (.inl rfl)

end Store

end TripleStore
