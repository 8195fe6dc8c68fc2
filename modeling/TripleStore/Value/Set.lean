import Std.Data.ExtTreeSet
import TripleStore.Value

/-!
# Sets of values

A set has no repeats and one listing. Two lists with the same elements make the
same set, in whatever order and however often the elements stand in them.
-/

namespace TripleStore

abbrev ValueSet := Std.ExtTreeSet Value Value.listed

namespace ValueSet

def of (values : List Value) : ValueSet := Std.ExtTreeSet.ofList values Value.listed

@[simp] theorem contains_of (values : List Value) (v : Value) :
    (of values).contains v = decide (v ∈ values) := by
  rw [of, Std.ExtTreeSet.contains_ofList, List.contains_eq_mem]

theorem of_eq_of_iff {vs ws : List Value} : of vs = of ws ↔ ∀ v, v ∈ vs ↔ v ∈ ws := by
  constructor
  · intro h v
    simpa using congrArg (fun s => s.contains v) h
  · intro h
    exact Std.ExtTreeSet.ext_mem fun v => by
      simpa [← Std.ExtTreeSet.contains_iff_mem] using h v

end ValueSet

end TripleStore
