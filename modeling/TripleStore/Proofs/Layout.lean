import TripleStore.Proofs.Chunks
import TripleStore.Proofs.LineGrammar
import TripleStore.Proofs.Outcome

/-! # The layout of a table -/

namespace TripleStore

namespace Text

/-! ## Lines laid out as a text -/

/-- The text has these lines. Each has a line end of its own, and the last one may go without. -/
inductive LaysOut : List (List Char) → List Char → Prop
  | nil : LaysOut [] []
  | unfinished (l : List Char) : LaysOut [l] l
  | feed (l : List Char) {ls : List (List Char)} {cs : List Char} (h : LaysOut ls cs) :
      LaysOut (l :: ls) (l ++ '\n' :: cs)
  | returnFeed (l : List Char) {ls : List (List Char)} {cs : List Char} (h : LaysOut ls cs) :
      LaysOut (l :: ls) (l ++ '\r' :: '\n' :: cs)

structure Spaced where
  inserted : List (List Char)
  line : List Char
  deriving DecidableEq, Repr, Inhabited

def Spaced.lines (b : Spaced) : List (List Char) := b.inserted ++ [b.line]

/-- How many lines are inserted in front of the line with this number. Lines count from 1. -/
def insertedBefore (spaced : List Spaced) (number : Nat) : Nat :=
  ((spaced.take number).flatMap Spaced.inserted).length

theorem insertedBefore_cons_succ (b : Spaced) (spaced : List Spaced) (number : Nat) :
    insertedBefore (b :: spaced) (number + 1) =
      b.inserted.length + insertedBefore spaced number := by
  simp [insertedBefore]

theorem forall_mem_lines_iff {P : List Char → Prop} {spaced : List Spaced} :
    (∀ l ∈ spaced.flatMap Spaced.lines, P l) ↔
      (∀ l ∈ spaced.flatMap Spaced.inserted, P l) ∧ ∀ l ∈ spaced.map Spaced.line, P l := by
  induction spaced with
  | nil => simp
  | cons b spaced ih =>
    simp only [List.flatMap_cons, List.forall_mem_append, List.map_cons, List.forall_mem_cons,
      Spaced.lines, ih, List.not_mem_nil, false_implies, implies_true, and_true]
    exact and_and_and_comm

end Text

open Text

namespace Table

theorem readLine_dropReturn (l : List Char) : readLine (dropReturn l) = readLine l := by
  obtain ⟨ends, hl, hends⟩ := exists_eq_dropReturn_append l
  conv_rhs => rw [hl]
  exact (readLine_append_lineEnds fun c hc => by rw [hends c hc]; rfl).symm

theorem readLine_of_skips {l : List Char} (h : skips l) : readLine l = .ok none := by
  unfold skips at h
  split at h
  · assumption
  · cases h

end Table

namespace Store

open Table

variable {st : Store} {number imported : Nat} {ls last : List (List Char)} {cs : List Char}

/-! ## Line ends -/

theorem importLines_cons_congr {l l' : List Char} {ls' : List (List Char)}
    (hl : readLine l = readLine l')
    (hls : ∀ (st : Store) (number imported : Nat),
      st.importLines number imported ls = st.importLines number imported ls') :
    st.importLines number imported (l :: ls) = st.importLines number imported (l' :: ls') := by
  simp only [importLines, hl, hls]

theorem importLines_lines (h : LaysOut ls cs) (hls : ∀ l ∈ ls, '\n' ∉ l) (st : Store)
    (number imported : Nat) :
    st.importLines number imported (lines cs) = st.importLines number imported ls := by
  induction h generalizing st number imported with
  | nil => rfl
  | unfinished l =>
    rw [lines_of_no_feed (hls l List.mem_cons_self)]
    cases l with
    | nil =>
      -- The empty line is not found, but there was nothing to import on it.
      rfl
    | cons c l => rfl
  | feed l h ih =>
    obtain ⟨hl, hls⟩ := List.forall_mem_cons.mp hls
    rw [lines_append_feed l _ hl]
    exact importLines_cons_congr (readLine_dropReturn l) (ih hls)
  | @returnFeed l ls cs h ih =>
    obtain ⟨hl, hls⟩ := List.forall_mem_cons.mp hls
    have hreturn : '\n' ∉ l ++ ['\r'] := by simp [hl]
    rw [← List.singleton_append, ← List.append_assoc, lines_append_feed _ _ hreturn]
    refine importLines_cons_congr ?_ (ih hls)
    rw [readLine_dropReturn]
    exact readLine_append_lineEnds (List.all_eq_true.mp rfl)

theorem importText_of_laysOut {text : String} (h : LaysOut ls text.toList)
    (hls : ∀ l ∈ ls, '\n' ∉ l) (st : Store) : st.importText text = st.importLines 1 0 ls :=
  importLines_lines h hls st 1 0

/-! ## Inserted lines -/

theorem importLines_append_of_skips (hls : ∀ l ∈ ls, skips l) (st : Store) (number imported : Nat)
    (rest : List (List Char)) :
    st.importLines number imported (ls ++ rest) =
      st.importLines (number + ls.length) imported rest := by
  induction ls generalizing number with
  | nil => rfl
  | cons l ls ih =>
    obtain ⟨hl, hls⟩ := List.forall_mem_cons.mp hls
    rw [List.cons_append, importLines]
    simp only [readLine_of_skips hl]
    rw [ih hls, List.length_cons, Nat.add_assoc, Nat.add_comm 1]

theorem importLines_spaced {spaced : List Spaced}
    (hspaced : ∀ l ∈ spaced.flatMap Spaced.inserted, skips l) (hlast : ∀ l ∈ last, skips l)
    {number' : Nat} {f : Nat → Nat}
    (hf : ∀ k < spaced.length, f (number + k) = number' + k + insertedBefore spaced (k + 1))
    (st : Store) (imported : Nat) :
    st.importLines number' imported (spaced.flatMap Spaced.lines ++ last) =
      (st.importLines number imported (spaced.map Spaced.line)).map
        (Except.mapError (.renumber f)) := by
  induction spaced generalizing st number number' imported with
  | nil =>
    have h := importLines_append_of_skips hlast st number' imported []
    rw [List.append_nil] at h
    rw [List.flatMap_nil, List.nil_append, h]
    rfl
  | cons b spaced ih =>
    rw [List.flatMap_cons, List.forall_mem_append] at hspaced
    obtain ⟨hb, hspaced⟩ := hspaced
    have hfirst : f number = number' + b.inserted.length := by
      have h := hf 0 (by simp)
      rw [insertedBefore_cons_succ] at h
      simpa [insertedBefore] using h
    have hothers : ∀ k < spaced.length, f (number + 1 + k) =
        number' + b.inserted.length + 1 + k + insertedBefore spaced (k + 1) := by
      intro k hk
      have h := hf (k + 1) (by simpa using hk)
      rw [insertedBefore_cons_succ] at h
      rw [Nat.add_right_comm number 1 k, Nat.add_assoc number k 1, h]
      omega
    rw [List.flatMap_cons, Spaced.lines, List.append_assoc, List.append_assoc,
      importLines_append_of_skips hb, List.singleton_append, List.map_cons]
    by_cases hl : isGood b.line
    · rw [importLines_cons_of_isGood hl, importLines_cons_of_isGood hl]
      exact ih hspaced hothers _ _
    · obtain ⟨e, log, he, hstop⟩ := exists_stop hl
      rw [hstop, hstop, ← hfirst, ← he f]
      rfl

/-- How lines end does not matter, and skipped lines only renumber an error. -/
theorem importText_ignores_layout (st : Store) (ls : List (List Char)) (hls : ∀ l ∈ ls, '\n' ∉ l)
    (text : String) (htext : LaysOut ls text.toList) :
    let plain := st.importText text
    (∀ other : String, LaysOut ls other.toList → st.importText other = plain) ∧
    ∀ (spaced : List Spaced) (last : List (List Char)), spaced.map Spaced.line = ls →
      (∀ l ∈ spaced.flatMap Spaced.inserted ++ last, skips l ∧ '\n' ∉ l) →
      ∀ other : String, LaysOut (spaced.flatMap Spaced.lines ++ last) other.toList →
        let spread := st.importText other
        spread.store = plain.store ∧
        (∀ count, plain.answer = .ok count → spread.answer = .ok count) ∧
        ∀ e, plain.answer = .error e →
          spread.answer =
            .error (e.renumber fun number => number + insertedBefore spaced number) := by
  intro plain
  have hplain : plain = st.importLines 1 0 ls := importText_of_laysOut htext hls st
  refine ⟨?_, ?_⟩
  · intro other hother
    rw [hplain, importText_of_laysOut hother hls]
  · intro spaced last hlines hinserted other hother spread
    obtain ⟨hspaced, hlast⟩ := List.forall_mem_append.mp hinserted
    have hfeed : ∀ l ∈ spaced.flatMap Spaced.lines ++ last, '\n' ∉ l := by
      rw [List.forall_mem_append, forall_mem_lines_iff, hlines]
      exact ⟨⟨fun l hl => (hspaced l hl).2, hls⟩, fun l hl => (hlast l hl).2⟩
    have hspread : spread = plain.map
        (Except.mapError (.renumber fun number => number + insertedBefore spaced number)) := by
      rw [hplain, ← hlines]
      refine (importText_of_laysOut hother hfeed st).trans
        (importLines_spaced (fun l hl => (hspaced l hl).1) (fun l hl => (hlast l hl).1) ?_ st 0)
      intro k _
      rw [Nat.add_comm 1 k]
    refine ⟨by rw [hspread]; rfl, ?_, ?_⟩
    · intro count hcount
      rw [hspread, Update.map, hcount]
      rfl
    · intro e he
      rw [hspread, Update.map, he]
      rfl

def looseLines : List (List Char) :=
  ["literal\ta\tp\to\r".toList, [], "resource\tb\tq".toList]

def spacedLines : List Spaced :=
  [⟨["# kinds".toList], "literal\ta\tp\to\r".toList⟩, ⟨[], []⟩,
    ⟨[" \t\r".toList, "#".toList], "resource\tb\tq".toList⟩]

def looseText : String := "literal\ta\tp\to\r\r\n\nresource\tb\tq"

def spacedText : String :=
  "# kinds\nliteral\ta\tp\to\r\n\r\n \t\r\n#\r\nresource\tb\tq\n# end"

theorem spacedLines_imported :
    (∀ l ∈ looseLines, '\n' ∉ l) ∧
      (∀ l ∈ spacedLines.flatMap Spaced.inserted ++ ["# end".toList], skips l ∧ '\n' ∉ l) ∧
      (empty.importText looseText).answer = .error (.malformed 3 (.fieldCount 3)) ∧
      empty.importText "literal\ta\tp\to\r\n\r\nresource\tb\tq\n" = empty.importText looseText ∧
      (empty.importText spacedText).answer = .error (.malformed 6 (.fieldCount 3)) ∧
      (empty.importText spacedText).store.toList = [⟨.name "a", "p", some (.literal "o"), 0⟩] := by
  have hlines : ∀ l ∈ looseLines, '\n' ∉ l := by decide
  have hinserted : ∀ l ∈ spacedLines.flatMap Spaced.inserted ++ ["# end".toList],
      skips l ∧ '\n' ∉ l := by decide
  have hloose : LaysOut looseLines looseText.toList :=
    .returnFeed _ (.feed _ (.unfinished _))
  have hfeeds : LaysOut looseLines "literal\ta\tp\to\r\n\r\nresource\tb\tq\n".toList :=
    .feed _ (.returnFeed _ (.feed _ .nil))
  have hspaced :
      LaysOut (spacedLines.flatMap Spaced.lines ++ ["# end".toList]) spacedText.toList :=
    .feed _ (.feed _ (.returnFeed _ (.feed _ (.returnFeed _ (.feed _ (.unfinished _))))))
  have hanswer : (empty.importText looseText).answer = .error (.malformed 3 (.fieldCount 3)) := by
    rfl
  obtain ⟨hends, hinsert⟩ := importText_ignores_layout empty looseLines hlines looseText hloose
  obtain ⟨hstore, -, herror⟩ :=
    hinsert spacedLines ["# end".toList] rfl hinserted spacedText hspaced
  refine ⟨hlines, hinserted, hanswer, hends _ hfeeds, herror _ hanswer, ?_⟩
  rw [hstore]
  rfl

end Store

end TripleStore
