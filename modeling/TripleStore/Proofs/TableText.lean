import TripleStore.Proofs.Imports
import TripleStore.Proofs.TextLines
import TripleStore.Proofs.Written

/-! # Stores as tables -/

namespace TripleStore

/-! ## Writing -/

namespace Table

def lineOf (s : Statement) : String :=
  s.kind.text ++ "\t" ++ s.subjectText ++ "\t" ++ s.predicate ++ "\t" ++ s.objectText

/-- A line feed ends each line. -/
def textOf (ss : List Statement) : String := String.join (ss.map fun s => lineOf s ++ "\n")

structure FitsLine (s : Statement) : Prop where
  no_break : ∀ text ∈ [s.subjectText, s.predicate, s.objectText],
    '\t' ∉ text.toList ∧ '\n' ∉ text.toList
  no_return : s.objectText.toList.getLast? ≠ some '\r'

instance (s : Statement) : Decidable (FitsLine s) :=
  decidable_of_iff
    ((∀ text ∈ [s.subjectText, s.predicate, s.objectText],
      '\t' ∉ text.toList ∧ '\n' ∉ text.toList) ∧ s.objectText.toList.getLast? ≠ some '\r')
    ⟨fun h => ⟨h.1, h.2⟩, fun h => ⟨h.no_break, h.no_return⟩⟩

/-! ## Reading a written line -/

def fieldsOf (s : Statement) : List (List Char) :=
  [s.kind.text.toList, s.subjectText.toList, s.predicate.toList, s.objectText.toList]

theorem toList_lineOf (s : Statement) : (lineOf s).toList = ['\t'].intercalate (fieldsOf s) := by
  simp [lineOf, fieldsOf, List.intercalate]

theorem mem_fieldsOf {s : Statement} (hs : FitsLine s) {field : List Char}
    (h : field ∈ fieldsOf s) : '\t' ∉ field ∧ '\n' ∉ field := by
  rcases List.mem_cons.mp h with rfl | h
  · cases s.kind <;> exact ⟨by decide, by decide⟩
  · obtain ⟨text, htext, rfl⟩ : ∃ text ∈ [s.subjectText, s.predicate, s.objectText],
        text.toList = field := by
      simpa [eq_comm] using h
    exact hs.no_break text htext

theorem splitOn_lineOf {s : Statement} (hs : FitsLine s) :
    (lineOf s).toList.splitOn '\t' = fieldsOf s := by
  rw [toList_lineOf]
  exact List.splitOn_intercalate '\t' (fun _ h => (mem_fieldsOf hs h).1) (by simp [fieldsOf])

theorem feed_notMem_lineOf {s : Statement} (hs : FitsLine s) : '\n' ∉ (lineOf s).toList := by
  have h : ∀ field ∈ fieldsOf s, '\n' ∉ field := fun _ hfield => (mem_fieldsOf hs hfield).2
  simp only [fieldsOf, List.forall_mem_cons] at h
  simp [lineOf, h]

theorem getLast?_lineOf {s : Statement} (hs : FitsLine s) (hobject : s.objectText ≠ "") :
    ∃ c, (lineOf s).toList.getLast? = some c ∧ isLineEnd c = false := by
  have hne : s.objectText.toList ≠ [] := by simpa using hobject
  have hlast : (lineOf s).toList.getLast? = s.objectText.toList.getLast? := by
    simp only [lineOf, String.toList_append]
    exact List.getLast?_append_of_ne_nil _ hne
  refine ⟨s.objectText.toList.getLast hne,
    by rw [hlast, List.getLast?_eq_getLast_of_ne_nil hne], ?_⟩
  have hreturn := hs.no_return
  rw [List.getLast?_eq_getLast_of_ne_nil hne] at hreturn
  have hfeed : s.objectText.toList.getLast hne ≠ '\n' := by
    intro h
    exact (hs.no_break s.objectText (by simp)).2 (h ▸ List.getLast_mem hne)
  simp only [isLineEnd, Bool.or_eq_false_iff, beq_eq_false_iff_ne]
  exact ⟨fun h => hreturn (by rw [h]), hfeed⟩

theorem dropTrailing_lineOf {s : Statement} (hs : FitsLine s) (hobject : s.objectText ≠ "") :
    Text.dropTrailing isLineEnd (lineOf s).toList = (lineOf s).toList := by
  obtain ⟨c, hlast, hc⟩ := getLast?_lineOf hs hobject
  obtain ⟨front, hfront⟩ := List.getLast?_eq_some_iff.mp hlast
  rw [hfront]
  exact List.rdropWhile_concat_neg isLineEnd front c (by simp [hc])

theorem isSkipped_lineOf {s : Statement} (hkind : s.kind ≠ .invalid) :
    isSkipped (lineOf s).toList = false := by
  simp only [lineOf, String.toList_append]
  cases hk : s.kind with
  | invalid => exact absurd hk hkind
  | literal => rfl
  | resource => rfl

theorem kindOf?_trim_text {k : ObjectKind} (hk : k ≠ .invalid) :
    kindOf? (String.ofList (Text.trim k.text.toList)) = some k := by
  cases k with
  | invalid => exact absurd rfl hk
  | literal => rfl
  | resource => rfl

theorem readLine_lineOf {s : Statement} (hs : FitsLine s) (hvalid : s.isValid)
    (hbuilt : s.IsWordBuilt) :
    readLine (lineOf s).toList = .ok (some (s.withId unassigned)) := by
  have hobject : s.objectText ≠ "" := (s.isValid_iff.mp hvalid).2
  have hkind : s.kind ≠ .invalid := by
    intro h
    have := hbuilt.ofText_objectText
    rw [h] at this
    simp [Statement.isValid, ← this, Object.ofText] at hvalid
  have hstatement : Statement.new (.parse s.subjectText) s.predicate s.objectText s.kind =
      s.withId unassigned := by
    have hsubject : Resource.parse s.subjectText = s.subject := hbuilt.isWritten_subject
    rw [Statement.new, hsubject, hbuilt.ofText_objectText]
    rfl
  simp only [readLine, dropTrailing_lineOf hs hobject, isSkipped_lineOf hkind, splitOn_lineOf hs,
    fieldsOf, ofFields, kindOf?_trim_text hkind, String.ofList_toList, hstatement]
  rfl

/-! ## Reading a written table -/

theorem toList_textOf (ss : List Statement) :
    (textOf ss).toList = Text.unlines (ss.map fun s => (lineOf s).toList) := by
  simp [textOf, Text.unlines, String.toList_join, List.flatMap_map]

theorem lines_textOf {ss : List Statement} (hss : ∀ s ∈ ss, FitsLine s ∧ s.objectText ≠ "") :
    Text.lines (textOf ss).toList = ss.map fun s => (lineOf s).toList := by
  rw [toList_textOf]
  apply Text.lines_unlines
  · intro l hl
    obtain ⟨s, hs, rfl⟩ := List.mem_map.mp hl
    exact feed_notMem_lineOf (hss s hs).1
  · intro l hl
    obtain ⟨s, hs, rfl⟩ := List.mem_map.mp hl
    obtain ⟨c, hlast, hc⟩ := getLast?_lineOf (hss s hs).1 (hss s hs).2
    rw [hlast]
    rintro ⟨⟩
    cases hc

end Table

namespace Store

open Table

theorem placedFrom_withId (start id : Int) (ss : List Statement) :
    placedFrom start (ss.map fun s => s.withId id) = placedFrom start ss := by
  apply List.ext_getElem?
  intro n
  simp only [placedFrom, List.getElem?_mapIdx, List.getElem?_map, Option.map_map]
  rfl

theorem Dense.placedFrom_toList {st : Store} (hd : st.Dense) (start : Int) :
    placedFrom start st.toList = st.toList.map fun s => s.withId (start + s.id) := by
  apply List.ext_getElem?
  intro n
  rw [placedFrom, List.getElem?_mapIdx, List.getElem?_map]
  cases hs : st.toList[n]? with
  | none => rfl
  | some s => rw [Option.map_some, Option.map_some, hd n s hs]

theorem importText_textOf {changes : List Change}
    (hb : ∀ s, Change.add s ∈ changes → s.IsWordBuilt)
    (hfits : ∀ s ∈ (after changes).toList, FitsLine s) (other : Store) :
    let st := after changes
    let u := other.importText (textOf st.toList)
    u.answer = .ok st.size ∧
      u.store.toList = other.toList ++ st.toList.map fun s => s.withId (other.nextId + s.id) := by
  intro st u
  have hread : ∀ s ∈ st.toList, readLine (lineOf s).toList = .ok (some (s.withId unassigned)) :=
    fun s hs => readLine_lineOf (hfits s hs) (isValid_of_mem hs) (isWordBuilt_of_mem hb hs)
  have hlines : Text.lines (textOf st.toList).toList = st.toList.map fun s => (lineOf s).toList :=
    lines_textOf fun s hs => ⟨hfits s hs, (s.isValid_iff.mp (isValid_of_mem hs)).2⟩
  have hgood : ∀ l ∈ Text.lines (textOf st.toList).toList, isGood l := by
    intro l hl
    rw [hlines] at hl
    obtain ⟨s, hs, rfl⟩ := List.mem_map.mp hl
    simp only [isGood, hread s hs, Statement.isValid_withId]
    exact isValid_of_mem hs
  have hstatements : (Text.lines (textOf st.toList).toList).filterMap statement? =
      st.toList.map fun s => s.withId unassigned := by
    rw [hlines, List.filterMap_map, ← List.filterMap_eq_map]
    exact List.filterMap_congr fun s hs => by simp [statement?, hread s hs]
  obtain ⟨hanswer, hstore⟩ := importText_of_isGood other hgood
  rw [← length_filterMap_statement? hgood, hstatements, List.length_map, length_toList] at hanswer
  rw [hstatements, placedFrom_withId, (dense_after changes).placedFrom_toList] at hstore
  exact ⟨hanswer, hstore⟩

theorem eq_of_toList_eq {st st' : Store} (h : st.toList = st'.toList) : st = st' := by
  cases st
  cases st'
  exact congrArg mk (Array.toList_inj.mp h)

/-- A table is imported as the store that it was written from. -/
theorem importText_loses_nothing (changes : List Change)
    (hb : ∀ s, Change.add s ∈ changes → s.IsWordBuilt)
    (hfits : ∀ s ∈ (after changes).toList, FitsLine s) :
    let st := after changes
    let text := textOf st.toList
    ((empty.importText text).answer = .ok st.size ∧ (empty.importText text).store = st) ∧
    ∀ other : Store,
      (other.importText text).answer = .ok st.size ∧
      (other.importText text).store.toList =
        other.toList ++ st.toList.map fun s => s.withId (other.nextId + s.id) := by
  intro st text
  have hany : ∀ other : Store, (other.importText text).answer = .ok st.size ∧
      (other.importText text).store.toList =
        other.toList ++ st.toList.map fun s => s.withId (other.nextId + s.id) :=
    fun other => importText_textOf hb hfits other
  refine ⟨⟨(hany empty).1, eq_of_toList_eq ?_⟩, hany⟩
  have hsame : (st.toList.map fun s => s.withId (empty.nextId + s.id)) = st.toList := by
    rw [List.map_congr_left (g := id), List.map_id]
    intro s _
    have hid : empty.nextId + s.id = s.id := Int.zero_add _
    rw [hid]
    rfl
  rw [(hany empty).2, hsame]
  rfl

/-- Blanks, carriage returns within a text, and subjects that are almost comments or references. -/
def oddTexts : List Change :=
  [.add (.literal (.parse " ") " " " \r "), .add (.resource (.parse "#a\rb") "" "[007]"),
    .add (.literal (.ofId 1) "p\r" "[0]"), .add (.literal (.ofId (-1)) "p" "#"),
    .importText "resource\t[+1]\tp\t[2]\n"]

theorem oddTexts_imported :
    let st := after oddTexts
    let other := (empty.add (.literal (.parse "a") "p" "o")).store
    textOf st.toList = "literal\t \t \t \r \nresource\t#a\rb\t\t[007]\n" ++
        "literal\t[1]\tp\r\t[0]\nliteral\t[-1]\tp\t#\nresource\t[+1]\tp\t[2]\n" ∧
      (empty.importText (textOf st.toList)).answer = .ok 5 ∧
      (empty.importText (textOf st.toList)).store = st ∧
      (other.importText (textOf st.toList)).store.toList =
        [⟨.name "a", "p", some (.literal "o"), 0⟩, ⟨.name " ", " ", some (.literal " \r "), 1⟩,
          ⟨.name "#a\rb", "", some (.resource (.name "[007]")), 2⟩,
          ⟨.ref 1, "p\r", some (.literal "[0]"), 3⟩, ⟨.name "[-1]", "p", some (.literal "#"), 4⟩,
          ⟨.name "[+1]", "p", some (.resource (.ref 2)), 5⟩] := by
  intro st other
  have hb : ∀ s, Change.add s ∈ oddTexts → s.IsWordBuilt := by
    intro s hs
    simp only [oddTexts, List.mem_cons, Change.add.injEq, reduceCtorEq, List.not_mem_nil, or_false]
      at hs
    rcases hs with rfl | rfl | rfl | rfl
    · exact ⟨.text " ", " ", " \r ", .literal, unassigned, trivial, rfl⟩
    · exact ⟨.text "#a\rb", "", "[007]", .resource, unassigned, trivial, rfl⟩
    · exact ⟨.id 1, "p\r", "[0]", .literal, unassigned, ⟨by decide, by decide⟩, rfl⟩
    · exact ⟨.id (-1), "p", "#", .literal, unassigned, ⟨by decide, by decide⟩, rfl⟩
  have hfits : ∀ s ∈ (after oddTexts).toList, FitsLine s := by decide
  obtain ⟨⟨hanswer, hstore⟩, hother⟩ := importText_loses_nothing oddTexts hb hfits
  exact ⟨by rfl, hanswer, hstore, (hother other).2.trans (by rfl)⟩

/-- A name that is written like a reference, and a reference that is written like a name. -/
def madeUp : List Change :=
  [.add (.literal (.name "[0]") "p" "o"), .add (.literal (.ref (-5)) "p" "o")]

theorem madeUp_read_otherwise :
    let st := after madeUp
    let imported := empty.importText (textOf st.toList)
    (∀ s ∈ st.toList, FitsLine s) ∧
      st.toList = [⟨.name "[0]", "p", some (.literal "o"), 0⟩,
        ⟨.ref (-5), "p", some (.literal "o"), 1⟩] ∧
      textOf st.toList = "literal\t[0]\tp\to\nliteral\t[-5]\tp\to\n" ∧
      imported.answer = .ok st.size ∧ imported.store ≠ st ∧
      imported.store.toList = [⟨.ref 0, "p", some (.literal "o"), 0⟩,
        ⟨.name "[-5]", "p", some (.literal "o"), 1⟩] := by
  decide

end Store

end TripleStore
