import Mathlib.Data.List.Basic
import TripleStore.Text.Lines

/-! # Texts and their lines -/

namespace TripleStore

namespace Text

/-! ## Finished lines -/

def EndsLines (cs : List Char) : Prop := cs = [] ∨ cs.getLast? = some '\n'

/-- A text is an unfinished line, or a line in front of a text. -/
@[elab_as_elim]
theorem lineInduction {motive : List Char → Prop} (unfinished : ∀ cs, '\n' ∉ cs → motive cs)
    (line : ∀ l cs, '\n' ∉ l → motive cs → motive (l ++ '\n' :: cs)) (cs : List Char) :
    motive cs := by
  induction hn : cs.length using Nat.strongRecOn generalizing cs with
  | ind n ih =>
    by_cases hfeed : '\n' ∈ cs
    · obtain ⟨l, rest, rfl, hl⟩ := List.eq_append_cons_of_mem hfeed
      have hshort : rest.length < n := by
        rw [← hn, List.length_append, List.length_cons]
        omega
      exact line l rest hl (ih rest.length hshort rest rfl)
    · exact unfinished cs hfeed

theorem eq_nil_of_endsLines {cs : List Char} (hcs : '\n' ∉ cs) (h : EndsLines cs) : cs = [] :=
  h.resolve_right fun hlast => hcs (List.mem_of_getLast? hlast)

theorem endsLines_append_feed_iff {l cs : List Char} :
    EndsLines (l ++ '\n' :: cs) ↔ EndsLines cs := by
  cases cs with
  | nil => simp [EndsLines]
  | cons c cs => simp [EndsLines, List.getLast?_append, List.getLast?_cons_cons]

theorem lines_append {front : List Char} (h : EndsLines front) (cs : List Char) :
    lines (front ++ cs) = lines front ++ lines cs := by
  induction front using lineInduction with
  | unfinished front hfront =>
    obtain rfl := eq_nil_of_endsLines hfront h
    rfl
  | line l front hl ih =>
    rw [List.append_assoc, List.cons_append, lines_append_feed l _ hl, lines_append_feed l _ hl,
      ih (endsLines_append_feed_iff.mp h), List.cons_append]

theorem length_lines {cs : List Char} (h : EndsLines cs) : (lines cs).length = cs.count '\n' := by
  induction cs using lineInduction with
  | unfinished cs hcs =>
    obtain rfl := eq_nil_of_endsLines hcs h
    rfl
  | line l cs hl ih =>
    rw [lines_append_feed l _ hl, List.length_cons, ih (endsLines_append_feed_iff.mp h),
      List.count_append, List.count_eq_zero.mpr hl, List.count_cons_self, Nat.zero_add]

/-- A line is what is left of it and at most one carriage return. -/
theorem exists_eq_dropReturn_append (l : List Char) :
    ∃ ends, l = dropReturn l ++ ends ∧ ∀ c ∈ ends, c = '\r' := by
  unfold dropReturn
  split
  · rename_i hlast
    obtain ⟨front, rfl⟩ := List.getLast?_eq_some_iff.mp hlast
    exact ⟨['\r'], by rw [List.dropLast_concat], by simp⟩
  · exact ⟨[], by rw [List.append_nil], by simp⟩

theorem feed_notMem_of_mem_lines {l cs : List Char} (h : l ∈ lines cs) : '\n' ∉ l := by
  induction cs using lineInduction with
  | unfinished cs hcs =>
    rw [lines_of_no_feed hcs, lastLine] at h
    split at h
    · cases h
    · rw [List.mem_singleton.mp h]
      exact hcs
  | line first cs hfirst ih =>
    rw [lines_append_feed first _ hfirst] at h
    rcases List.mem_cons.mp h with rfl | h
    · obtain ⟨ends, hends, -⟩ := exists_eq_dropReturn_append first
      rw [hends, List.mem_append, not_or] at hfirst
      exact hfirst.1
    · exact ih h

/-! ## Written lines -/

def unlines (ls : List (List Char)) : List Char := ls.flatMap fun l => l ++ ['\n']

theorem unlines_cons (l : List Char) (ls : List (List Char)) :
    unlines (l :: ls) = l ++ '\n' :: unlines ls := by
  simp [unlines]

theorem endsLines_unlines (ls : List (List Char)) : EndsLines (unlines ls) := by
  induction ls with
  | nil => exact .inl rfl
  | cons l ls ih => exact unlines_cons l ls ▸ endsLines_append_feed_iff.mpr ih

theorem lines_unlines {ls : List (List Char)} (hfeed : ∀ l ∈ ls, '\n' ∉ l)
    (hreturn : ∀ l ∈ ls, l.getLast? ≠ some '\r') : lines (unlines ls) = ls := by
  induction ls with
  | nil => rfl
  | cons l ls ih =>
    obtain ⟨hl, hfeed⟩ := List.forall_mem_cons.mp hfeed
    obtain ⟨hlast, hreturn⟩ := List.forall_mem_cons.mp hreturn
    rw [unlines_cons, lines_append_feed l _ hl, ih hfeed hreturn, dropReturn, if_neg hlast]

theorem length_lines_unlines (ls : List (List Char)) :
    (lines (unlines ls)).length = ls.length + ls.flatten.count '\n' := by
  rw [length_lines (endsLines_unlines ls)]
  induction ls with
  | nil => rfl
  | cons l ls ih =>
    rw [unlines_cons, List.count_append, List.count_cons_self, ih, List.length_cons,
      List.flatten_cons, List.count_append]
    omega

theorem length_lines_unlines_eq_iff (ls : List (List Char)) :
    (lines (unlines ls)).length = ls.length ↔ ∀ l ∈ ls, '\n' ∉ l := by
  rw [length_lines_unlines, Nat.add_eq_left, List.count_eq_zero, List.mem_flatten]
  simp

end Text

end TripleStore
