import TripleStore.Proofs.Utf8Faults
import TripleStore.Table.Import

/-! # Imports of files -/

namespace TripleStore

namespace Text

theorem toUTF8_eq_iff {x : String} {contents : ByteArray} :
    x.toUTF8 = contents ↔ bytes x = contents.data.toList := by
  rw [ByteArray.ext_iff, ← Array.toList_inj]
  rfl

theorem fromUTF8?_toUTF8 (x : String) : String.fromUTF8? x.toUTF8 = some x := dif_pos x.isValidUTF8

theorem fromUTF8?_eq_none {contents : ByteArray} (h : ∀ x : String, x.toUTF8 ≠ contents) :
    String.fromUTF8? contents = none :=
  dif_neg fun hvalid => h (String.fromUTF8 contents hvalid) rfl

theorem fromUTF8?_eq_some_iff {contents : ByteArray} {x : String} :
    String.fromUTF8? contents = some x ↔ contents = x.toUTF8 := by
  constructor
  · intro h
    by_cases htext : ∃ y : String, y.toUTF8 = contents
    · obtain ⟨y, rfl⟩ := htext
      rw [fromUTF8?_toUTF8] at h
      rw [Option.some.inj h]
    · rw [fromUTF8?_eq_none fun y hy => htext ⟨y, hy⟩] at h
      cases h
  · rintro rfl
    exact fromUTF8?_toUTF8 x

end Text

namespace Store

theorem importFile_toUTF8 (st : Store) (text : String) :
    st.importFile (.ok text.toUTF8) = st.importText text := by
  simp only [importFile, Text.fromUTF8?_toUTF8]

theorem importFile_of_not_text {contents : ByteArray}
    (h : ∀ text : String, text.toUTF8 ≠ contents) (st : Store) :
    st.importFile (.ok contents) = { store := st, answer := .error (.unreadable .notText) } := by
  simp only [importFile, Text.fromUTF8?_eq_none h]

/-- A file whose bytes are a text is imported like the text, and any other not at all. -/
theorem importFile_takes_texts_whole (st : Store) (contents : ByteArray) :
    (∀ text : String, text.toUTF8 = contents → st.importFile (.ok contents) = st.importText text) ∧
    ((∀ text : String, text.toUTF8 ≠ contents) →
      st.importFile (.ok contents) = { store := st, answer := .error (.unreadable .notText) }) ∧
    ((∀ text : String, text.toUTF8 ≠ contents) ↔ ∃ (front : String) (rest : List UInt8),
      contents.data.toList = Text.bytes front ++ rest ∧ Text.Fault rest) ∧
    ∀ e, st.importFile (.error e) = { store := st, answer := .error (.unreadable e) } := by
  refine ⟨?_, fun h => importFile_of_not_text h st, ?_, fun _ => rfl⟩
  · rintro text rfl
    exact importFile_toUTF8 st text
  · simp only [ne_eq, Text.toUTF8_eq_iff]
    exact Text.not_text_iff contents.data.toList

def accentedTable : String := "literal\ta\tp\t\u00e9\n"

def tableWith (tail : List UInt8) : ByteArray := ⟨(Text.bytes accentedTable ++ tail).toArray⟩

/-- A stray byte, one cut short by a feed, an overlong slash, a surrogate, a number too high. -/
def faultyTails : List (List UInt8) :=
  [[0x80], [0xe2, 0x82, 0x0a], [0xc0, 0xaf], [0xed, 0xa0, 0x80], [0xf4, 0x90, 0x80, 0x80]]

theorem fault_of_mem_faultyTails : ∀ tail ∈ faultyTails, Text.Fault tail := by
  simp only [faultyTails, List.forall_mem_cons]
  refine ⟨.stray (by decide), .cutShort (by decide) ?_, ?_, ?_, ?_, nofun⟩
  · rintro ds hds ⟨hasked, hfollows⟩
    have hlength : ds.length = 2 := (Option.some.inj hasked).symm
    obtain rfl := hds.eq_of_length hlength
    exact absurd (hfollows 0x0a (by simp)) (by decide)
  · have hslash : Text.IsSequence 0xc0 [0xaf] := ⟨by decide, by simp [Text.Follows]⟩
    exact .overlong hslash (by decide)
  · have hsurrogate : Text.IsSequence 0xed [0xa0, 0x80] := ⟨by decide, by simp [Text.Follows]⟩
    exact .surrogate hsurrogate (by decide)
  · have hhigh : Text.IsSequence 0xf4 [0x90, 0x80, 0x80] := ⟨by decide, by simp [Text.Follows]⟩
    exact .tooHigh hhigh (by decide)

theorem faultyTails_refused :
    let st := (empty.add (.literal (.parse "z") "p" "o")).store
    (st.importFile (.ok accentedTable.toUTF8)).answer = .ok 1 ∧
      ∀ tail ∈ faultyTails, st.importFile (.ok (tableWith tail)) =
        { store := st, answer := .error (.unreadable .notText) } := by
  intro st
  refine ⟨?_, ?_⟩
  · rw [(importFile_takes_texts_whole st _).1 accentedTable rfl]
    rfl
  · intro tail htail
    obtain ⟨-, hrefused, hfault, -⟩ := importFile_takes_texts_whole st (tableWith tail)
    exact hrefused (hfault.mpr ⟨accentedTable, tail, rfl, fault_of_mem_faultyTails tail htail⟩)

end Store

end TripleStore
