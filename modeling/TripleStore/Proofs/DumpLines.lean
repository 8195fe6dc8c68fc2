import TripleStore.Proofs.FileImports
import TripleStore.Proofs.Imports
import TripleStore.Proofs.LineGrammar
import TripleStore.Proofs.TextLines

/-! # Dumps line by line -/

namespace TripleStore

/-! ## The line of a statement -/

namespace Statement

def IsOneLine (s : Statement) : Prop :=
  ∀ text ∈ [s.subjectText, s.predicate, s.objectText], '\n' ∉ text.toList

instance (s : Statement) : Decidable s.IsOneLine :=
  inferInstanceAs (Decidable (∀ text ∈ [s.subjectText, s.predicate, s.objectText],
    '\n' ∉ text.toList))

theorem isOneLine_withId {s : Statement} (id : Int) :
    (s.withId id).IsOneLine ↔ s.IsOneLine := Iff.rfl

theorem feed_notMem_repr (id : Int) : '\n' ∉ id.repr.toList := by
  have hnat : ∀ n : Nat, '\n' ∉ (toString n).toList := by
    intro n h
    rw [Decimal.toString_eq_ofList_digits, String.toList_ofList] at h
    exact absurd (Decimal.isDigit_of_mem_digits h) (by decide)
  cases id with
  | ofNat n => exact hnat n
  | negSucc n => simpa [Int.repr] using hnat (n + 1)

theorem feed_mem_objectMark_iff (s : Statement) :
    '\n' ∈ s.objectMark.toList ↔ '\n' ∈ s.objectText.toList := by
  unfold objectMark objectText
  cases s.object with
  | none => simp
  | some o => cases o <;> simp [Object.text]

theorem feed_notMem_line_iff (s : Statement) : '\n' ∉ s.line.toList ↔ s.IsOneLine := by
  simp [line, IsOneLine, feed_notMem_repr, feed_mem_objectMark_iff]

/-- A quote or a bracket ends the mark, and so the line. -/
theorem getLast?_line_ne (s : Statement) : s.line.toList.getLast? ≠ some '\r' := by
  obtain ⟨c, hlast, hc⟩ : ∃ c, s.objectMark.toList.getLast? = some c ∧ c ≠ '\r' := by
    unfold objectMark
    cases s.object with
    | none => exact ⟨')', rfl, by decide⟩
    | some o =>
      cases o with
      | literal text => exact ⟨'"', by simp [List.getLast?_cons], by decide⟩
      | resource target => exact ⟨'>', by simp [List.getLast?_cons], by decide⟩
  rw [line, String.toList_append, List.getLast?_append, hlast]
  simpa using hc

end Statement

/-! ## Imported statements -/

namespace Table

theorem isOneLine_of_readLine {line : List Char} {s : Statement}
    (h : readLine line = .ok (some s)) (hfeed : '\n' ∉ line) : s.IsOneLine := by
  have hbody : Text.CutsTo isLineEnd line (Text.dropTrailing isLineEnd line) :=
    Text.dropTrailing_eq_iff.mp rfl
  obtain ⟨-, -, k, hrow, -⟩ := ((readLine_eq_iff_reads hbody).mp h).verbatim
  obtain ⟨rest, hline, -⟩ := hbody.text
  rw [hline, hrow] at hfeed
  simp only [List.mem_append, List.mem_cons, not_or] at hfeed
  simp [Statement.IsOneLine, hfeed]

end Table

inductive Source where
  | text (text : String)
  | file (contents : Except ReadError ByteArray)

namespace Store

def importSource (st : Store) : Source → Update Store (Except ImportError Nat)
  | .text text => st.importText text
  | .file contents => st.importFile contents

def filledFrom (sources : List Source) : Store :=
  sources.foldl (fun st source => (st.importSource source).store) empty

theorem isOneLine_of_mem_importText {st : Store} (hst : ∀ s ∈ st.toList, s.IsOneLine)
    (text : String) : ∀ s ∈ (st.importText text).store.toList, s.IsOneLine := by
  intro s hs
  rw [importText, store_importLines, toList_addAll, placedFrom, List.mem_append, List.mem_mapIdx]
    at hs
  rcases hs with hs | ⟨n, hn, rfl⟩
  · exact hst s hs
  · obtain ⟨line, hline, hread⟩ :=
      Table.exists_line_of_mem_statementsOn (List.mem_of_mem_filter (List.getElem_mem hn))
    rw [Statement.isOneLine_withId]
    exact Table.isOneLine_of_readLine hread (Text.feed_notMem_of_mem_lines hline)

theorem isOneLine_of_mem_importFile {st : Store} (hst : ∀ s ∈ st.toList, s.IsOneLine)
    (contents : Except ReadError ByteArray) :
    ∀ s ∈ (st.importFile contents).store.toList, s.IsOneLine := by
  cases contents with
  | error e => exact hst
  | ok bytes =>
    by_cases htext : ∃ text : String, text.toUTF8 = bytes
    · obtain ⟨text, rfl⟩ := htext
      rw [importFile_toUTF8]
      exact isOneLine_of_mem_importText hst text
    · rw [importFile_of_not_text fun text h => htext ⟨text, h⟩]
      exact hst

theorem isOneLine_of_mem_filledFrom (sources : List Source) :
    ∀ s ∈ (filledFrom sources).toList, s.IsOneLine := by
  induction sources using List.reverseRecOn with
  | nil => simp [filledFrom]
  | append_singleton sources source ih =>
    rw [filledFrom, List.foldl_concat]
    cases source with
    | text text => exact isOneLine_of_mem_importText ih text
    | file contents => exact isOneLine_of_mem_importFile ih contents

/-! ## The dump -/

def readDump (st : Store) : List String := (Text.lines st.dumpText.toList).map String.ofList

theorem toList_dumpText (st : Store) :
    st.dumpText.toList = Text.unlines (st.dumpLines.map String.toList) := by
  simp [dumpText, Text.unlines, String.toList_join, List.flatMap_map]

theorem feed_notMem_dumpLines_iff (st : Store) :
    (∀ l ∈ st.dumpLines.map String.toList, '\n' ∉ l) ↔ ∀ s ∈ st.toList, s.IsOneLine := by
  simp [dumpLines, Statement.feed_notMem_line_iff]

theorem length_dumpLines (st : Store) : st.dumpLines.length = st.size := by
  simp [dumpLines]

theorem length_readDump_eq_iff (st : Store) :
    st.readDump.length = st.size ↔ ∀ s ∈ st.toList, s.IsOneLine := by
  rw [← feed_notMem_dumpLines_iff, ← Text.length_lines_unlines_eq_iff, ← toList_dumpText]
  simp [readDump, length_dumpLines]

theorem readDump_eq_dumpLines {st : Store} (h : ∀ s ∈ st.toList, s.IsOneLine) :
    st.readDump = st.dumpLines := by
  have hreturn : ∀ l ∈ st.dumpLines.map String.toList, l.getLast? ≠ some '\r' := by
    simp [dumpLines, Statement.getLast?_line_ne]
  rw [readDump, toList_dumpText, Text.lines_unlines ((feed_notMem_dumpLines_iff st).mpr h) hreturn]
  simp [Function.comp_def]

/-- The dump has one line for each statement if and only if no text holds a line feed. -/
theorem dump_lines_up_without_feeds (st : Store) :
    (∀ n : Nat, st.dumpLines[n]? = (st.get? n).map Statement.line) ∧
    (st.readDump = st.dumpLines ↔ ∀ s ∈ st.toList, s.IsOneLine) ∧
    (st.readDump.length = st.size ↔ ∀ s ∈ st.toList, s.IsOneLine) ∧
    ∀ sources, (filledFrom sources).readDump = (filledFrom sources).dumpLines := by
  refine ⟨?_, ⟨?_, readDump_eq_dumpLines⟩, length_readDump_eq_iff st, ?_⟩
  · intro n
    rw [get?_eq_getElem?, dumpLines, List.getElem?_map]
  · intro h
    rw [← length_readDump_eq_iff, h, length_dumpLines]
  · intro sources
    exact readDump_eq_dumpLines (isOneLine_of_mem_filledFrom sources)

/-- The object of the statement looks like the end of its line and a second line. -/
def forgedDump : Store := (empty.add (.literal (.parse "a") "p" "x\"\n1: b p \"y")).store

def returnSources : List Source :=
  [.text "literal\ta\rb\tp\r\to\r \r\nliteral\tc\n",
    .file (.ok "resource\t[0]\t\td\r\r\n".toUTF8), .file (.error .notFound)]

theorem forgedDump_read :
    forgedDump.readDump = ["0: a p \"x\"", "1: b p \"y\""] ∧
      forgedDump.readDump ≠ forgedDump.dumpLines ∧
      (filledFrom returnSources).readDump =
        ["0: a\rb p\r \"o\r \"", "1: [0]  <d>"] := by
  have hforged : forgedDump.readDump = ["0: a p \"x\"", "1: b p \"y\""] := by rfl
  refine ⟨hforged, ?_, ?_⟩
  · rw [ne_eq, (dump_lines_up_without_feeds forgedDump).2.1]
    decide
  · rw [(dump_lines_up_without_feeds .empty).2.2.2 returnSources]
    rfl

end Store

end TripleStore
