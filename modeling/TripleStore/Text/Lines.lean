import TripleStore.Text.Blank

/-!
# The lines of a text

A line ends at a line feed. A carriage return right before it belongs to the line
end; any other carriage return is part of the line. What stands after the last
line feed is a line only if it is not empty, and keeps all its characters.
-/

namespace TripleStore.Text

/-- A line without the carriage return of its line end. -/
def dropReturn (cs : List Char) : List Char :=
  if cs.getLast? = some '\r' then cs.dropLast else cs

/-- The unfinished last line, if there is one. -/
def lastLine (cs : List Char) : List (List Char) := if cs.isEmpty then [] else [cs]

/-- The lines of a text, without their line ends. -/
def lines (cs : List Char) : List (List Char) :=
  let pieces := cs.splitOn '\n'
  pieces.dropLast.map dropReturn ++ lastLine (pieces.getLastD [])

theorem lines_of_no_feed {cs : List Char} (h : '\n' ∉ cs) : lines cs = lastLine cs := by
  simp [lines, List.splitOn_eq_singleton h]

/-- A line feed cuts a text in two, and each side has its own lines. -/
theorem lines_append_feed (l cs : List Char) (h : '\n' ∉ l) :
    lines (l ++ '\n' :: cs) = dropReturn l :: lines cs := by
  have hne : cs.splitOn '\n' ≠ [] := List.splitOnP_ne_nil _ _
  simp only [lines, List.splitOn_append_cons_self, List.splitOn_eq_singleton h,
    List.singleton_append]
  rw [List.dropLast_cons_of_ne_nil hne]
  cases hs : cs.splitOn '\n' with
  | nil => exact absurd hs hne
  | cons p ps => simp

end TripleStore.Text
