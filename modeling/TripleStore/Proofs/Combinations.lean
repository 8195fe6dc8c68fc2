import TripleStore.Proofs.Meaning

/-! # Combinations of selects -/

namespace TripleStore

/-- The numbers with `p`, in ascending order. -/
def Lists (ids : List Int) (p : Int → Prop) : Prop := ids.Pairwise (· < ·) ∧ ∀ n, n ∈ ids ↔ p n

theorem lists_of_eq_ok {ε : Type} {x : Except ε (List Int)} {ids : List Int} {p : Int → Prop}
    (hx : x = .ok ids) (h : ∃ ids', x = .ok ids' ∧ Lists ids' p) : Lists ids p := by
  obtain ⟨ids', hx', hlists⟩ := h
  rw [hx] at hx'
  rwa [Except.ok.inj hx']

namespace Store

def selectIds (st : Store) (e : Expr) : Except QueryError (List Int) := (st.select .ids e).outcome

def acceptedIds (st : Store) (r : Resolved) : List Int := (st.accepted r).map Statement.id

theorem ids_eq_ok (s : Statement) : Projection.ids s = .ok s.id := rfl

/-- The id of a statement always has a value, so only a nested select can fail. -/
theorem selectIds_eq (st : Store) (e : Expr) :
    st.selectIds e = do return st.acceptedIds (← (st.resolve e).outcome) := by
  have hrows : st.rows .ids = fun r => .ok (st.acceptedIds r) := by
    funext r
    rw [rows, mapM_eq_ok_iff, acceptedIds, List.map_map]
    exact List.map_congr_left fun s _ => ids_eq_ok s
  rw [selectIds, outcome_select, hrows]
  rfl

theorem selectIds_of_resolve {st : Store} {e : Expr} {r : Resolved}
    (h : (st.resolve e).outcome = .ok r) : st.selectIds e = .ok (st.acceptedIds r) := by
  rw [selectIds_eq, h]
  rfl

section Dense

variable {st : Store} (hd : st.Dense) (r a b : Resolved)
include hd

theorem mem_acceptedIds_iff (n : Int) :
    n ∈ st.acceptedIds r ↔ ∃ s, st.get? n = some s ∧ r.accepts s := by
  simp only [acceptedIds, accepted, List.mem_map, List.mem_filter]
  constructor
  · rintro ⟨s, ⟨hs, hr⟩, rfl⟩
    exact ⟨s, hd.get?_id hs, hr⟩
  · rintro ⟨s, hs, hr⟩
    obtain ⟨hmem, hid⟩ := hd.of_get? hs
    exact ⟨s, ⟨hmem, hr⟩, hid⟩

theorem pairwise_acceptedIds : (st.acceptedIds r).Pairwise (· < ·) := by
  rw [acceptedIds, List.pairwise_map]
  exact hd.pairwise_id_lt.filter _

theorem within_of_mem_acceptedIds {n : Int} (h : n ∈ st.acceptedIds r) : 0 ≤ n ∧ n < st.size := by
  obtain ⟨s, hs, -⟩ := (mem_acceptedIds_iff hd r n).mp h
  rw [← isSome_get?_iff, hs]
  rfl

theorem lists_acceptedIds_not :
    Lists (st.acceptedIds (.not a)) fun n => (0 ≤ n ∧ n < st.size) ∧ n ∉ st.acceptedIds a := by
  refine ⟨pairwise_acceptedIds hd _, ?_⟩
  intro n
  simp only [mem_acceptedIds_iff hd, ← isSome_get?_iff]
  cases st.get? n <;> simp [Resolved.accepts]

theorem lists_acceptedIds_and :
    Lists (st.acceptedIds (.and a b)) fun n => n ∈ st.acceptedIds a ∧ n ∈ st.acceptedIds b := by
  refine ⟨pairwise_acceptedIds hd _, ?_⟩
  intro n
  simp only [mem_acceptedIds_iff hd]
  cases st.get? n <;> simp [Resolved.accepts]

theorem lists_acceptedIds_or :
    Lists (st.acceptedIds (.or a b)) fun n => n ∈ st.acceptedIds a ∨ n ∈ st.acceptedIds b := by
  refine ⟨pairwise_acceptedIds hd _, ?_⟩
  intro n
  simp only [mem_acceptedIds_iff hd]
  cases st.get? n <;> simp [Resolved.accepts]

end Dense

/-- A side that fails ends the select, even if the other would have decided every statement. -/
theorem selectIds_combine (changes : List Change) (a b : Expr) :
    let st := after changes
    (∀ e ids, st.selectIds e = .ok ids →
      ids.Pairwise (· < ·) ∧ ∀ n ∈ ids, 0 ≤ n ∧ n < st.size) ∧
    (match st.selectIds a with
      | .error err => st.selectIds (.not a) = .error err
      | .ok left => ∃ ids, st.selectIds (.not a) = .ok ids ∧
          Lists ids fun n => (0 ≤ n ∧ n < st.size) ∧ n ∉ left) ∧
    (match st.selectIds a, st.selectIds b with
      | .error err, _ | .ok _, .error err =>
        st.selectIds (.and a b) = .error err ∧ st.selectIds (.or a b) = .error err
      | .ok left, .ok right =>
        (∃ ids, st.selectIds (.and a b) = .ok ids ∧ Lists ids fun n => n ∈ left ∧ n ∈ right) ∧
        ∃ ids, st.selectIds (.or a b) = .ok ids ∧ Lists ids fun n => n ∈ left ∨ n ∈ right) := by
  intro st
  have hd : st.Dense := dense_after changes
  refine ⟨?_, ?_, ?_⟩
  · intro e ids h
    rw [selectIds_eq] at h
    obtain ⟨r, -, h⟩ := bind_eq_ok_iff.mp h
    obtain rfl : st.acceptedIds r = ids := Except.ok.inj h
    exact ⟨pairwise_acceptedIds hd r, fun n => within_of_mem_acceptedIds hd r⟩
  · rw [selectIds_eq, selectIds_eq, outcome_resolve_not]
    cases (st.resolve a).outcome with
    | error err => rfl
    | ok ra => exact ⟨_, rfl, lists_acceptedIds_not hd ra⟩
  · rw [selectIds_eq, selectIds_eq, selectIds_eq, selectIds_eq, outcome_resolve_and,
      outcome_resolve_or]
    cases (st.resolve a).outcome with
    | error err => exact ⟨rfl, rfl⟩
    | ok ra =>
      cases (st.resolve b).outcome with
      | error err => exact ⟨rfl, rfl⟩
      | ok rb =>
        exact ⟨⟨_, rfl, lists_acceptedIds_and hd ra rb⟩, ⟨_, rfl, lists_acceptedIds_or hd ra rb⟩⟩

/-- The select of the values fails at a later statement, but before the other one. -/
theorem marriages_combined :
    let st := after marriages
    let ofValues : Expr := .inSelect .subject (.parseInt .object) wives
    let unmarried : QueryError := ⟨0, .missingAttribute "my:wife"⟩
    let unnumbered : QueryError := ⟨1, .conversion "Anna" "integer"⟩
    (st.selectIds wives = .ok [1, 2] ∧ st.selectIds ofTopi = .ok [0, 1] ∧
      st.selectIds ofMarried = .error unmarried ∧ st.selectIds ofValues = .error unnumbered) ∧
    (st.selectIds (.not wives) = .ok [0, 3, 4] ∧
      Lists [0, 3, 4] fun n => (0 ≤ n ∧ n < st.size) ∧ n ∉ [(1 : Int), 2]) ∧
    (st.selectIds (.and wives ofTopi) = .ok [1] ∧
      Lists [1] fun n => n ∈ [(1 : Int), 2] ∧ n ∈ [(0 : Int), 1]) ∧
    (st.selectIds (.or wives ofTopi) = .ok [0, 1, 2] ∧
      Lists [0, 1, 2] fun n => n ∈ [(1 : Int), 2] ∨ n ∈ [(0 : Int), 1]) ∧
    st.selectIds (.not ofMarried) = .error unmarried ∧
    st.selectIds (.or .everything ofMarried) = .error unmarried ∧
    st.selectIds (.and ofValues ofMarried) = .error unnumbered := by
  intro st ofValues unmarried unnumbered
  obtain ⟨-, hnot, hboth⟩ := selectIds_combine marriages wives ofTopi
  obtain ⟨-, hnotMarried, -⟩ := selectIds_combine marriages ofMarried .everything
  obtain ⟨-, -, heither⟩ := selectIds_combine marriages .everything ofMarried
  obtain ⟨-, -, hleft⟩ := selectIds_combine marriages ofValues ofMarried
  exact ⟨⟨rfl, rfl, rfl, rfl⟩, ⟨rfl, lists_of_eq_ok rfl hnot⟩, ⟨rfl, lists_of_eq_ok rfl hboth.1⟩,
    ⟨rfl, lists_of_eq_ok rfl hboth.2⟩, hnotMarried, heither.2, hleft.1⟩

end Store

end TripleStore
