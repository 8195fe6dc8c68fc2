import TripleStore.Proofs.Changes

/-! # Imports line by line -/

namespace TripleStore

/-! ## Good and bad lines -/

namespace Table

def IsBad (line : List Char) : Prop :=
  (∃ e, readLine line = .error e) ∨ ∃ s, readLine line = .ok (some s) ∧ ¬ s.isValid

def skips (line : List Char) : Bool :=
  match readLine line with
  | .ok none => true
  | _ => false

theorem isGood_iff_not_isBad {line : List Char} : isGood line ↔ ¬ IsBad line := by
  unfold isGood IsBad
  cases readLine line with
  | error e => simp
  | ok s? => cases s? <;> simp

theorem not_isGood_iff {line : List Char} : ¬ isGood line ↔ IsBad line := by
  rw [isGood_iff_not_isBad, Classical.not_not]

instance (line : List Char) : Decidable (IsBad line) :=
  decidable_of_iff (¬ isGood line) not_isGood_iff

theorem forall_isGood_iff {lines : List (List Char)} :
    (∀ l ∈ lines, isGood l) ↔ ∀ l ∈ lines, ¬ IsBad l :=
  forall₂_congr fun _ _ => isGood_iff_not_isBad

theorem isValid_of_statement? {line : List Char} {s : Statement} (hgood : isGood line)
    (hs : statement? line = some s) : s.isValid := by
  unfold isGood at hgood
  unfold statement? at hs
  cases hl : readLine line with
  | error e => simp [hl] at hs
  | ok s? =>
    simp only [hl] at hs hgood
    subst hs
    exact hgood

theorem filter_isValid_filterMap {lines : List (List Char)} (hgood : ∀ l ∈ lines, isGood l) :
    (lines.filterMap statement?).filter Statement.isValid = lines.filterMap statement? := by
  rw [List.filter_eq_self]
  intro s hs
  obtain ⟨l, hl, hs⟩ := List.mem_filterMap.mp hs
  exact isValid_of_statement? (hgood l hl) hs

theorem length_filterMap_statement? {lines : List (List Char)} (hgood : ∀ l ∈ lines, isGood l) :
    (lines.filterMap statement?).length = lines.countP fun l => !skips l := by
  rw [List.length_filterMap_eq_countP]
  refine List.countP_congr fun l hl => ?_
  have hread := hgood l hl
  unfold isGood at hread
  cases hl : readLine l with
  | error e => simp [hl] at hread
  | ok s? => cases s? <;> simp [statement?, skips, hl]

end Table

/-! ## Added statements -/

def placedFrom (start : Int) (ss : List Statement) : List Statement :=
  ss.mapIdx fun n s => s.withId (start + n)

theorem placedFrom_zero (ss : List Statement) : placedFrom 0 ss = numbered ss := by
  simp only [placedFrom, numbered, Int.zero_add]

namespace Store

theorem nextId_add {s : Statement} (hs : s.isValid) (st : Store) :
    (st.add s).store.nextId = st.nextId + 1 := by
  have h := toList_add st s
  rw [if_pos hs] at h
  have hlen := congrArg List.length h
  simp only [length_toList, List.length_append, List.length_singleton] at hlen
  simp only [nextId, hlen]
  omega

theorem toList_addAll (st : Store) (ss : List Statement) :
    (st.addAll ss).toList = st.toList ++ placedFrom st.nextId (ss.filter Statement.isValid) := by
  induction ss generalizing st with
  | nil => simp [addAll_nil, placedFrom]
  | cons s ss ih =>
    by_cases hs : s.isValid
    · -- The statement takes the first id, and the others count on from the next one.
      have hshift : placedFrom st.nextId (s :: ss.filter Statement.isValid) =
          s.withId st.nextId :: placedFrom (st.nextId + 1) (ss.filter Statement.isValid) := by
        simp only [placedFrom, List.mapIdx_cons, Int.add_assoc, Int.add_comm 1]
        simp
      rw [addAll_cons, ih, toList_add, if_pos hs, nextId_add hs, List.filter_cons_of_pos hs,
        hshift, List.append_assoc, List.singleton_append]
    · rw [addAll_cons, ih, store_add_of_not_isValid st hs, List.filter_cons_of_neg hs]

/-! ## Lines of an import -/

open Table

theorem importLines_cons_of_isGood {l : List Char} (hl : isGood l) (st : Store)
    (number imported : Nat) (ls : List (List Char)) :
    st.importLines number imported (l :: ls) =
      (st.addAll (statement? l).toList).importLines (number + 1)
        (imported + if skips l then 0 else 1) ls := by
  unfold isGood at hl
  rw [importLines]
  cases hread : readLine l with
  | error e => simp [hread] at hl
  | ok s? =>
    cases s? with
    | none => simp [statement?, skips, hread, addAll_nil]
    | some s =>
      simp only [hread] at hl
      have hid : (st.add s).answer ≠ unassigned := by
        rw [ne_eq, answer_add_eq_unassigned_iff, not_not]
        exact hl
      simp [statement?, skips, hread, hid, addAll_cons, addAll_nil]

theorem importLines_append_of_isGood {ls : List (List Char)} (hls : ∀ l ∈ ls, isGood l) (st : Store)
    (number imported : Nat) (rest : List (List Char)) :
    st.importLines number imported (ls ++ rest) =
      (st.addAll (ls.filterMap statement?)).importLines (number + ls.length)
        (imported + ls.countP fun l => !skips l) rest := by
  induction ls generalizing st number imported with
  | nil => rfl
  | cons l ls ih =>
    have hl : isGood l := hls l List.mem_cons_self
    rw [List.cons_append, importLines_cons_of_isGood hl,
      ih fun l' h => hls l' (List.mem_cons_of_mem _ h)]
    have hadd : (st.addAll (statement? l).toList).addAll (ls.filterMap statement?) =
        st.addAll ((l :: ls).filterMap statement?) := by
      cases hs : statement? l <;> simp [hs, addAll_nil, addAll_cons]
    have hcount : (imported + if skips l then 0 else 1) + (ls.countP fun l => !skips l) =
        imported + (l :: ls).countP fun l => !skips l := by
      rw [List.countP_cons]
      cases skips l with
      | true => simp
      | false =>
        simp only [Bool.false_eq_true, if_false, Bool.not_false, if_true]
        omega
    rw [hadd, hcount, List.length_cons, Nat.add_assoc, Nat.add_comm 1]

theorem importLines_of_malformed {l : List Char} {e : LineError} (hl : readLine l = .error e)
    (st : Store) (number imported : Nat) (ls : List (List Char)) :
    st.importLines number imported (l :: ls) =
      { store := st, answer := .error (.malformed number e) } := by
  rw [importLines, hl]

theorem importLines_of_invalid {l : List Char} {s : Statement} (hl : readLine l = .ok (some s))
    (hs : ¬ s.isValid) (st : Store) (number imported : Nat) (ls : List (List Char)) :
    st.importLines number imported (l :: ls) =
      { store := st, answer := .error (.invalidStatement number), log := [.rejected s] } := by
  simp [importLines, hl, add, hs]

theorem importText_of_isGood (st : Store) {text : String}
    (hgood : ∀ l ∈ Text.lines text.toList, isGood l) :
    (st.importText text).answer = .ok ((Text.lines text.toList).countP fun l => !skips l) ∧
      (st.importText text).store.toList =
        st.toList ++ placedFrom st.nextId ((Text.lines text.toList).filterMap statement?) := by
  have hu := importLines_append_of_isGood hgood st 1 0 []
  rw [List.append_nil] at hu
  rw [importText, hu, importLines, toList_addAll, filter_isValid_filterMap hgood, Nat.zero_add]
  exact ⟨rfl, rfl⟩

theorem importLines_succeeds_iff {ls : List (List Char)} {st : Store} {number imported : Nat} :
    (∃ count, (st.importLines number imported ls).answer = .ok count) ↔ ∀ l ∈ ls, isGood l := by
  induction ls generalizing st number imported with
  | nil => simp [importLines]
  | cons l ls ih =>
    by_cases hl : isGood l
    · rw [importLines_cons_of_isGood hl, ih, List.forall_mem_cons, and_iff_right hl]
    · rcases not_isGood_iff.mp hl with ⟨e, he⟩ | ⟨s, hs, hinvalid⟩
      · simp [importLines_of_malformed he, hl]
      · simp [importLines_of_invalid hs hinvalid, hl]

/-- The first bad line stops an import, and the statements before it stay. -/
theorem importText_stops_at_first_bad (st : Store) (text : String) :
    let lines := Text.lines text.toList
    let u := st.importText text
    ((∀ l ∈ lines, ¬ IsBad l) →
      u.answer = .ok (lines.countP fun l => !skips l) ∧
      u.store.toList = st.toList ++ placedFrom st.nextId (lines.filterMap statement?)) ∧
    (∀ before bad after, lines = before ++ bad :: after → (∀ l ∈ before, ¬ IsBad l) → IsBad bad →
      (∀ e, readLine bad = .error e → u.answer = .error (.malformed (before.length + 1) e)) ∧
      (∀ s, readLine bad = .ok (some s) →
        u.answer = .error (.invalidStatement (before.length + 1))) ∧
      u.store.toList = st.toList ++ placedFrom st.nextId (before.filterMap statement?)) ∧
    st.toList <+: u.store.toList := by
  intro lines u
  refine ⟨?_, ?_, ?_⟩
  · intro hgood
    exact importText_of_isGood st (forall_isGood_iff.mpr hgood)
  · intro before bad after hlines hgood hbad
    simp only [← isGood_iff_not_isBad] at hgood
    have hu := importLines_append_of_isGood hgood st 1 0 (bad :: after)
    rw [← hlines] at hu
    have hu : u = (st.addAll (before.filterMap statement?)).importLines _ _ (bad :: after) := hu
    have hstore := toList_addAll st (before.filterMap statement?)
    rw [filter_isValid_filterMap hgood] at hstore
    rw [Nat.add_comm 1] at hu
    rcases hbad with ⟨e, he⟩ | ⟨s, hs, hinvalid⟩
    · rw [hu, importLines_of_malformed he, he]
      refine ⟨?_, ?_, hstore⟩
      · rintro e' ⟨⟩
        rfl
      · rintro s ⟨⟩
    · rw [hu, importLines_of_invalid hs hinvalid, hs]
      refine ⟨?_, ?_, hstore⟩
      · rintro e ⟨⟩
      · rintro s' ⟨⟩
        rfl
  · have hstore : u.store = st.addAll (statementsOn lines) := store_importLines st 1 0 lines
    rw [hstore, toList_addAll]
    exact List.prefix_append _ _

def raggedLines : String :=
  "# kinds\r\n \t\nliteral\ta\tp\to\r\r\nresource\t[07]\tq\t[0]\r\n"

theorem raggedLines_imported :
    let st := (empty.add (.literal (.parse "z") "p" "o")).store
    let kept : List Statement :=
      [⟨.name "z", "p", some (.literal "o"), 0⟩, ⟨.name "a", "p", some (.literal "o"), 1⟩,
        ⟨.name "[07]", "q", some (.resource (.ref 0)), 2⟩]
    let good := st.importText raggedLines
    let malformed := st.importText (raggedLines ++ "literal\tb\nliteral\tc\tp\to\n")
    let invalid := st.importText (raggedLines ++ "literal\t\tp\to")
    (good.answer = .ok 2 ∧ good.store.toList = kept) ∧
      (malformed.answer = .error (.malformed 5 (.fieldCount 2)) ∧ malformed.store.toList = kept) ∧
      (invalid.answer = .error (.invalidStatement 5) ∧ invalid.store.toList = kept) := by
  intro st kept good malformed invalid
  have hgood : ∀ l ∈ Text.lines raggedLines.toList, ¬ IsBad l := by
    intro l hl
    have hall : (Text.lines raggedLines.toList).all isGood := by rfl
    exact isGood_iff_not_isBad.mp (List.all_eq_true.mp hall l hl)
  have hkept : st.toList ++
      placedFrom st.nextId ((Text.lines raggedLines.toList).filterMap statement?) = kept := by rfl
  refine ⟨?_, ?_, ?_⟩
  · have h := (importText_stops_at_first_bad st raggedLines).1 hgood
    exact ⟨h.1, h.2.trans hkept⟩
  · have hsplit : Text.lines (raggedLines ++ "literal\tb\nliteral\tc\tp\to\n").toList =
        Text.lines raggedLines.toList ++ "literal\tb".toList :: ["literal\tc\tp\to".toList] := by
      rw [String.toList_append]
      rfl
    obtain ⟨hanswer, -, hstore⟩ := (importText_stops_at_first_bad st _).2.1 _ _ _ hsplit hgood
      (.inl ⟨.fieldCount 2, rfl⟩)
    exact ⟨hanswer (.fieldCount 2) rfl, hstore.trans hkept⟩
  · have hsplit : Text.lines (raggedLines ++ "literal\t\tp\to").toList =
        Text.lines raggedLines.toList ++ "literal\t\tp\to".toList :: [] := by
      rw [String.toList_append]
      rfl
    obtain ⟨-, hanswer, hstore⟩ := (importText_stops_at_first_bad st _).2.1 _ _ _ hsplit hgood
      (.inr ⟨.literal (.name "") "p" "o", rfl, by decide⟩)
    exact ⟨hanswer (.literal (.name "") "p" "o") rfl, hstore.trans hkept⟩

end Store

end TripleStore
