import Mathlib.Data.List.DropRight
import TripleStore.Table.Import

/-! # Changes of a store -/

namespace TripleStore

inductive Change where
  | add (s : Statement)
  | importText (text : String)
  | clear
  deriving DecidableEq, Repr, Inhabited

inductive Answer where
  | added (id : Int)
  | imported (result : Except ImportError Nat)
  | cleared

namespace Store

def apply (st : Store) : Change → Update Store Answer
  | .add s => (st.add s).map .added
  | .importText text => (st.importText text).map .imported
  | .clear => st.clear.map fun _ => .cleared

def run (st : Store) : List Change → Update Store (List Answer)
  | [] => { store := st, answer := [] }
  | c :: cs =>
    let u := st.apply c
    let rest := u.store.run cs
    { store := rest.store, answer := u.answer :: rest.answer, log := u.log ++ rest.log }

def after (changes : List Change) : Store := (empty.run changes).store

theorem store_run_append (st : Store) (cs ds : List Change) :
    (st.run (cs ++ ds)).store = ((st.run cs).store.run ds).store := by
  induction cs generalizing st with
  | nil => rfl
  | cons c cs ih => exact ih (st.apply c).store

theorem after_concat (cs : List Change) (c : Change) :
    after (cs ++ [c]) = ((after cs).apply c).store := by
  rw [after, store_run_append]
  rfl

/-! ## Additions -/

theorem store_add_of_not_isValid (st : Store) {s : Statement} (h : ¬ s.isValid) :
    (st.add s).store = st := by
  rw [add, if_neg h]

theorem answer_add (st : Store) (s : Statement) :
    (st.add s).answer = if s.isValid then st.nextId else unassigned := by
  unfold add
  split <;> rfl

theorem answer_add_eq_unassigned_iff (st : Store) (s : Statement) :
    (st.add s).answer = unassigned ↔ ¬ s.isValid := by
  have hid : st.nextId ≠ unassigned := by simp only [nextId, unassigned]; omega
  rw [answer_add]
  split <;> simp_all

def addAll (st : Store) (ss : List Statement) : Store := ss.foldl (fun st s => (st.add s).store) st

theorem addAll_nil (st : Store) : st.addAll [] = st := rfl

theorem addAll_cons (st : Store) (s : Statement) (ss : List Statement) :
    st.addAll (s :: ss) = (st.add s).store.addAll ss := rfl

end Store

/-! ## Imports -/

namespace Table

/-- An import goes on after this line: it is skipped, or it holds a valid statement. -/
def isGood (line : List Char) : Bool :=
  match readLine line with
  | .error _ => false
  | .ok none => true
  | .ok (some s) => s.isValid

def statement? (line : List Char) : Option Statement :=
  match readLine line with
  | .error _ => none
  | .ok s? => s?

/-- The statements on the lines before the first bad one. -/
def statementsOn (lines : List (List Char)) : List Statement :=
  (lines.takeWhile isGood).filterMap statement?

theorem exists_line_of_mem_statementsOn {lines : List (List Char)} {s : Statement}
    (h : s ∈ statementsOn lines) : ∃ line ∈ lines, readLine line = .ok (some s) := by
  obtain ⟨line, hline, hs⟩ := List.mem_filterMap.mp h
  refine ⟨line, (List.takeWhile_sublist _).subset hline, ?_⟩
  unfold statement? at hs
  split at hs
  · cases hs
  · rename_i s? hread
    rw [hread, hs]

end Table

namespace Store

open Table in
theorem store_importLines (st : Store) (number imported : Nat) (ls : List (List Char)) :
    (st.importLines number imported ls).store = st.addAll (statementsOn ls) := by
  induction ls generalizing st number imported with
  | nil => rfl
  | cons l ls ih =>
    unfold importLines
    cases hl : readLine l with
    | error e => simp [statementsOn, isGood, hl, addAll_nil]
    | ok s? =>
      cases s? with
      | none => simp [ih, statementsOn, isGood, statement?, hl]
      | some s =>
        simp only [answer_add_eq_unassigned_iff]
        by_cases hs : s.isValid
        · simp [hs, ih, statementsOn, isGood, statement?, hl, addAll_cons]
        · simp [hs, statementsOn, isGood, hl, addAll_nil, store_add_of_not_isValid]

end Store

/-! ## What a store holds -/

namespace Change

def handed : Change → List Statement
  | add s => [s]
  | importText text => Table.statementsOn (Text.lines text.toList)
  | clear => []

def isClear : Change → Bool
  | clear => true
  | _ => false

/-- The valid statements handed over since the last clearing. -/
def kept (changes : List Change) : List Statement :=
  ((changes.rtakeWhile fun c => !c.isClear).flatMap handed).filter Statement.isValid

theorem kept_concat_clear (cs : List Change) : kept (cs ++ [clear]) = [] := by
  rw [kept, List.rtakeWhile_concat_neg _ _ _ (by simp [isClear])]
  rfl

theorem kept_concat {c : Change} (hc : c.isClear = false) (cs : List Change) :
    kept (cs ++ [c]) = kept cs ++ c.handed.filter Statement.isValid := by
  rw [kept, List.rtakeWhile_concat_pos _ _ _ (by simp [hc]), List.flatMap_append,
    List.filter_append, List.flatMap_singleton]
  rfl

end Change

def numbered (ss : List Statement) : List Statement := ss.mapIdx fun n s => s.withId n

theorem length_numbered (ss : List Statement) : (numbered ss).length = ss.length := by
  simp [numbered]

namespace Store

theorem toList_add_of_numbered {st : Store} {ss : List Statement} (h : st.toList = numbered ss)
    (s : Statement) : (st.add s).store.toList = numbered (ss ++ [s].filter Statement.isValid) := by
  have hid : st.nextId = ss.length := by
    rw [nextId, ← length_toList, h, length_numbered]
  rw [toList_add, h, hid]
  by_cases hs : s.isValid
  · simp [hs, numbered]
  · simp [hs]

theorem toList_addAll_of_numbered {st : Store} {ss : List Statement} (h : st.toList = numbered ss)
    (more : List Statement) :
    (st.addAll more).toList = numbered (ss ++ more.filter Statement.isValid) := by
  induction more generalizing st ss with
  | nil => simpa [addAll_nil] using h
  | cons s more ih =>
    rw [addAll_cons, ih (toList_add_of_numbered h s), List.append_assoc, ← List.filter_append]
    rfl

theorem store_apply {c : Change} (hc : c.isClear = false) (st : Store) :
    (st.apply c).store = st.addAll c.handed := by
  cases c with
  | add s => rfl
  | importText text => exact store_importLines st 1 0 _
  | clear => simp [Change.isClear] at hc

theorem toList_after (changes : List Change) :
    (after changes).toList = numbered (Change.kept changes) := by
  induction changes using List.reverseRecOn with
  | nil => rfl
  | append_singleton cs c ih =>
    rw [after_concat]
    by_cases hc : c.isClear
    · obtain rfl : c = .clear := by cases c <;> simp_all [Change.isClear]
      rw [Change.kept_concat_clear]
      rfl
    · simp only [Bool.not_eq_true] at hc
      rw [store_apply hc, Change.kept_concat hc]
      exact toList_addAll_of_numbered ih _

/-! ## Ids are places -/

theorem isSome_get?_iff (st : Store) (id : Int) : (st.get? id).isSome ↔ 0 ≤ id ∧ id < st.size := by
  unfold get? size
  split
  · simp; omega
  · simp only [isSome_getElem?]
    omega

/-- Every statement has its place as its id. -/
def Dense (st : Store) : Prop := ∀ (n : Nat) (s : Statement), st.toList[n]? = some s → s.id = n

theorem dense_after (changes : List Change) : (after changes).Dense := by
  intro n s hs
  rw [toList_after, numbered, List.getElem?_mapIdx] at hs
  obtain ⟨s', -, rfl⟩ := Option.map_eq_some_iff.mp hs
  rfl

namespace Dense

variable {st : Store} (hd : st.Dense)
include hd

theorem ids_eq : st.toList.map Statement.id = (List.range st.size).map Int.ofNat := by
  apply List.ext_getElem?
  intro n
  rw [List.getElem?_map, List.getElem?_map]
  cases hs : st.toList[n]? with
  | none =>
    have hn : st.size ≤ n := by rw [← length_toList]; exact List.getElem?_eq_none_iff.mp hs
    simp [hn]
  | some s =>
    have hn : n < st.size := by rw [← length_toList]; exact (List.getElem?_eq_some_iff.mp hs).1
    simp [hn, hd n s hs]

theorem pairwise_id_lt : st.toList.Pairwise fun s s' => s.id < s'.id := by
  rw [← List.pairwise_map (f := Statement.id) (R := fun a b : Int => a < b), hd.ids_eq]
  exact List.Pairwise.map _ (fun _ _ h => Int.ofNat_lt.mpr h) List.pairwise_lt_range

theorem get?_id {s : Statement} (hs : s ∈ st.toList) : st.get? s.id = some s := by
  obtain ⟨n, hn⟩ := List.getElem?_of_mem hs
  rw [hd n s hn, get?_eq_getElem?, hn]

theorem of_get? {id : Int} {s : Statement} (h : st.get? id = some s) :
    s ∈ st.toList ∧ s.id = id := by
  have hid : 0 ≤ id := ((isSome_get?_iff st id).mp (by rw [h]; rfl)).1
  obtain ⟨n, rfl⟩ := Int.eq_ofNat_of_zero_le hid
  rw [get?_eq_getElem?] at h
  exact ⟨List.mem_of_getElem? h, hd n s h⟩

end Dense

end Store

end TripleStore
