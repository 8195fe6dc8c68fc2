import TripleStore.Proofs.Imports
import TripleStore.Proofs.TextLines

/-! # Imports in chunks -/

namespace TripleStore

/-! ## Errors further down -/

def ImportError.renumber (f : Nat → Nat) : ImportError → ImportError
  | unreadable e => unreadable e
  | malformed line e => malformed (f line) e
  | invalidStatement line => invalidStatement (f line)

/-! ## Lines in two parts -/

namespace Store

open Table

variable {st : Store} {number imported : Nat} {ls : List (List Char)}

theorem exists_stop {l : List Char} (hl : ¬ isGood l) :
    ∃ (e : Nat → ImportError) (log : List Event),
      (∀ f n, (e n).renumber f = e (f n)) ∧
      ∀ (st : Store) (number imported : Nat) (ls : List (List Char)),
        st.importLines number imported (l :: ls) =
          { store := st, answer := .error (e number), log } := by
  rcases not_isGood_iff.mp hl with ⟨e, he⟩ | ⟨s, hs, hinvalid⟩
  · exact ⟨fun n => .malformed n e, [], fun _ _ => rfl, importLines_of_malformed he⟩
  · exact ⟨.invalidStatement, [.rejected s], fun _ _ => rfl, importLines_of_invalid hs hinvalid⟩

theorem importLines_append_of_error {e : ImportError}
    (h : (st.importLines number imported ls).answer = .error e) (rest : List (List Char)) :
    st.importLines number imported (ls ++ rest) = st.importLines number imported ls := by
  induction ls generalizing st number imported with
  | nil => cases h
  | cons l ls ih =>
    rw [List.cons_append]
    by_cases hl : isGood l
    · rw [importLines_cons_of_isGood hl] at h
      rw [importLines_cons_of_isGood hl, importLines_cons_of_isGood hl, ih h]
    · obtain ⟨e', log, -, hstop⟩ := exists_stop hl
      rw [hstop, hstop]

theorem importLines_append_of_ok {count : Nat}
    (h : (st.importLines number imported ls).answer = .ok count) (rest : List (List Char)) :
    st.importLines number imported (ls ++ rest) =
      (st.importLines number imported ls).store.importLines (number + ls.length) count rest := by
  have hgood : ∀ l ∈ ls, isGood l := importLines_succeeds_iff.mp ⟨count, h⟩
  have hls := importLines_append_of_isGood hgood st number imported []
  rw [List.append_nil, importLines] at hls
  rw [hls] at h
  obtain rfl := Except.ok.inj h
  rw [importLines_append_of_isGood hgood, hls]

/-- Where the counting starts changes what is counted, and nothing else. -/
theorem answer_importLines_add (st : Store) (number imported offset before : Nat)
    (ls : List (List Char)) :
    (st.importLines (number + offset) (before + imported) ls).answer =
      ((st.importLines number imported ls).answer.map (before + ·)).mapError
        (.renumber (· + offset)) := by
  induction ls generalizing st number imported with
  | nil => rfl
  | cons l ls ih =>
    by_cases hl : isGood l
    · rw [importLines_cons_of_isGood hl, importLines_cons_of_isGood hl, Nat.add_right_comm,
        Nat.add_assoc before, ih]
    · obtain ⟨e, log, he, hstop⟩ := exists_stop hl
      rw [hstop, hstop, ← he (· + offset)]
      rfl

theorem store_importLines_add (st : Store) (number imported offset before : Nat)
    (ls : List (List Char)) :
    (st.importLines (number + offset) (before + imported) ls).store =
      (st.importLines number imported ls).store := by
  rw [store_importLines, store_importLines]

/-- A text that ends a line, and then the rest, are imported like the whole. -/
theorem importText_in_chunks (st : Store) (text more : String)
    (htext : text = "" ∨ text.toList.getLast? = some '\n') :
    let first := st.importText text
    let whole := st.importText (text ++ more)
    (∀ e, first.answer = .error e → whole = first) ∧
    ∀ count, first.answer = .ok count →
      let second := first.store.importText more
      whole.store = second.store ∧
      (∀ n, second.answer = .ok n → whole.answer = .ok (count + n)) ∧
      ∀ e, second.answer = .error e →
        whole.answer = .error (e.renumber (· + text.toList.count '\n')) := by
  intro first whole
  have hends : Text.EndsLines text.toList := by
    rcases htext with rfl | hlast
    · exact .inl rfl
    · exact .inr hlast
  have hwhole : whole =
      st.importLines 1 0 (Text.lines text.toList ++ Text.lines more.toList) := by
    simp only [whole, importText, String.toList_append, Text.lines_append hends]
  refine ⟨?_, ?_⟩
  · intro e he
    rw [hwhole]
    exact importLines_append_of_error he _
  · intro count hcount second
    have hrest : whole = first.store.importLines (1 + text.toList.count '\n') (count + 0)
        (Text.lines more.toList) := by
      rw [hwhole, ← Text.length_lines hends]
      exact importLines_append_of_ok hcount _
    refine ⟨?_, ?_, ?_⟩
    · rw [hrest]
      exact store_importLines_add first.store 1 0 _ count _
    · intro n hn
      have hsecond : (first.store.importLines 1 0 (Text.lines more.toList)).answer = .ok n := hn
      rw [hrest, answer_importLines_add, hsecond]
      rfl
    · intro e he
      have hsecond : (first.store.importLines 1 0 (Text.lines more.toList)).answer = .error e := he
      rw [hrest, answer_importLines_add, hsecond]
      rfl

def kindsChunk : String := "# kinds\r\nliteral\ta\tp\to\r\n"

def brokenChunk : String := "\nresource\tb\tq\t[0]\nliteral\tc\nliteral\td\tp\to\n"

theorem chunks_imported :
    let st := (empty.add (.literal (.parse "z") "p" "o")).store
    (st.importText (kindsChunk ++ "literal\tb\tp\to")).answer = .ok 2 ∧
      (st.importText (kindsChunk ++ brokenChunk)).answer =
        .error (.malformed 5 (.fieldCount 2)) ∧
      (st.importText (kindsChunk ++ brokenChunk)).store.toList =
        [⟨.name "z", "p", some (.literal "o"), 0⟩, ⟨.name "a", "p", some (.literal "o"), 1⟩,
          ⟨.name "b", "q", some (.resource (.ref 0)), 2⟩] ∧
      st.importText (brokenChunk ++ kindsChunk) = st.importText brokenChunk := by
  intro st
  have hkinds : (st.importText kindsChunk).answer = .ok 1 := by rfl
  have hfeed : kindsChunk.toList.getLast? = some '\n' := by rfl
  obtain ⟨-, hunfinished, -⟩ :=
    (importText_in_chunks st kindsChunk "literal\tb\tp\to" (.inr hfeed)).2 1 hkinds
  obtain ⟨hstore, -, herror⟩ :=
    (importText_in_chunks st kindsChunk brokenChunk (.inr hfeed)).2 1 hkinds
  have hbroken : (st.importText brokenChunk).answer = .error (.malformed 3 (.fieldCount 2)) := by
    rfl
  refine ⟨hunfinished 1 (by rfl), herror (.malformed 3 (.fieldCount 2)) (by rfl), ?_, ?_⟩
  · rw [hstore]
    rfl
  · exact (importText_in_chunks st brokenChunk kindsChunk (.inr (by rfl))).1 _ hbroken

end Store

end TripleStore
