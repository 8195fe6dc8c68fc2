import TripleStore.Proofs.Findings
import TripleStore.Proofs.Imports
import TripleStore.Proofs.Record
import TripleStore.Proofs.Sampling
import TripleStore.Trial.Run

/-! # Trials find nothing -/

namespace TripleStore

/-! ## Stores that were only added to -/

namespace Store

theorem after_map_add (ss : List Statement) : after (ss.map .add) = empty.addAll ss := by
  suffices h : ∀ st : Store, (st.run (ss.map .add)).store = st.addAll ss from h empty
  induction ss with
  | nil => exact fun _ => rfl
  | cons s ss ih => exact fun st => ih (st.add s).store

theorem addAll_concat (st : Store) (ss : List Statement) (s : Statement) :
    st.addAll (ss ++ [s]) = ((st.addAll ss).add s).store := by
  simp [addAll]

theorem size_addAll (ss : List Statement) :
    (empty.addAll ss).size = ss.countP Statement.isValid := by
  rw [← length_toList, toList_addAll, List.countP_eq_length_filter]
  simp [placedFrom]

theorem dense_addAll (ss : List Statement) : (empty.addAll ss).Dense := by
  rw [← after_map_add]
  exact dense_after _

theorem isValid_of_mem_addAll {ss : List Statement} {s : Statement}
    (hs : s ∈ (empty.addAll ss).toList) : s.isValid := by
  rw [← after_map_add] at hs
  exact isValid_of_mem hs

/-- No array in memory has more elements than there are ids. -/
def FitsIds (st : Store) : Prop := st.size ≤ Decimal.maxInt

end Store

theorem Audit.record_nil (a : Audit) (operation : Nat) : a.record operation [] = a := by
  simp [record]

namespace Trial

/-! ## Recorded trials -/

namespace Config

variable (c : Config)

def checkIfDue (p : Progress) (index : Nat) : Drawn Progress := do
  if (index + 1) % max c.interval 1 = 0 then
    let name ← c.sampler.predicateName
    let a ← c.sampler.expr
    let b ← c.sampler.expr
    return p.check index name a b
  else return p

def recordedStep (r : Progress × List Statement) (index : Nat) :
    Drawn (Progress × List Statement) := do
  let s ← c.sampler.statement r.1.store.nextId
  let p ← c.checkIfDue (r.1.insert index s) index
  return (p, r.2 ++ [s])

def recordedRun (operations : Nat) (audit : Audit) : Drawn (Progress × List Statement) :=
  (List.range operations).foldlM c.recordedStep ({ audit }, [])

def runs : List Nat → Audit → Drawn (List Progress)
  | [], _ => return []
  | n :: ns, audit => do
    let p ← c.run n audit
    return p :: (← runs ns p.audit)

def recordedRuns : List Nat → Audit → Drawn (List (Progress × List Statement))
  | [], _ => return []
  | n :: ns, audit => do
    let r ← c.recordedRun n audit
    return r :: (← recordedRuns ns r.1.audit)

theorem step_eq_map (r : Progress × List Statement) (index : Nat) :
    c.step r.1 index = Prod.fst <$> c.recordedStep r index := by
  simp only [recordedStep, map_bind, map_pure, bind_pure]
  rfl

theorem run_eq_map (n : Nat) (audit : Audit) :
    c.run n audit = Prod.fst <$> c.recordedRun n audit := by
  suffices h : ∀ (is : List Nat) (r : Progress × List Statement),
      is.foldlM c.step r.1 = Prod.fst <$> is.foldlM c.recordedStep r from
    h (List.range n) ({ audit }, [])
  intro is
  induction is with
  | nil => simp
  | cons i is ih =>
    intro r
    rw [List.foldlM_cons, List.foldlM_cons, step_eq_map, map_bind, bind_map_left]
    exact bind_congr ih

theorem runs_eq_map (ns : List Nat) (audit : Audit) :
    c.runs ns audit = List.map Prod.fst <$> c.recordedRuns ns audit := by
  induction ns generalizing audit with
  | nil => simp [runs, recordedRuns]
  | cons n ns ih => simp [runs, recordedRuns, run_eq_map, ih]

end Config

/-! ## What an insertion and a check keep -/

structure Progress.Follows (p : Progress) (audit : Audit) (drawn : List Statement) : Prop where
  store : p.store = .addAll .empty drawn
  stored : p.stored = drawn.countP Statement.isValid
  rejected : p.rejected = drawn.countP fun s => !s.isValid
  audit : p.store.FitsIds → p.audit = audit

namespace Progress.Follows

variable {p : Progress} {audit : Audit} {drawn : List Statement}

theorem start (audit : Audit) : ({ audit } : Progress).Follows audit [] :=
  ⟨rfl, rfl, rfl, fun _ => rfl⟩

theorem insert (h : p.Follows audit drawn) (index : Nat) (s : Statement) :
    (p.insert index s).Follows audit (drawn ++ [s]) := by
  refine ⟨?_, ?_, ?_, ?_⟩
  · rw [Store.addAll_concat, ← h.store]
    rfl
  · simp only [Progress.insert, h.stored, List.countP_append, List.countP_singleton]
    cases s.isValid <;> rfl
  · simp only [Progress.insert, h.rejected, List.countP_append, List.countP_singleton]
    cases s.isValid <;> rfl
  · intro hfits
    have hgrow : p.store.size ≤ (p.store.add s).store.size := by
      rw [Store.size_add]
      split <;> omega
    have hfits : p.store.size ≤ Decimal.maxInt := Nat.le_trans hgrow hfits
    simp only [Progress.insert, Store.checkInsert_add hfits, Audit.record_nil]
    exact h.audit hfits

theorem check (h : p.Follows audit drawn) (index : Nat) (name : String) {a b : Expr}
    (ha : a.NeverFails) (hb : b.NeverFails) : (p.check index name a b).Follows audit drawn := by
  refine ⟨h.store, h.stored, h.rejected, ?_⟩
  intro hfits
  -- The store was only added to, so each check has what it asks for.
  have hdense : p.store.Dense := by
    rw [h.store]
    exact Store.dense_addAll drawn
  have hvalid : ∀ s ∈ p.store.toList, s.isValid := by
    rw [h.store]
    exact fun s => Store.isValid_of_mem_addAll
  obtain ⟨ra, hra⟩ := ha.exists_resolve p.store
  obtain ⟨rb, hrb⟩ := hb.exists_resolve p.store
  simp only [Progress.check, Store.checkDenseIds_eq_nil hdense hvalid,
    Store.checkPredicateScan_eq_nil, Store.checkAlgebra_eq_nil hdense hra hrb, Audit.record_nil]
  exact h.audit hfits

theorem size_store (h : p.Follows audit drawn) : p.store.size = p.stored := by
  rw [h.store, Store.size_addAll, h.stored]

theorem operations (h : p.Follows audit drawn) : p.operations = drawn.length := by
  rw [Progress.operations, h.stored, h.rejected, List.length_eq_countP_add_countP Statement.isValid]
  simp

end Progress.Follows

/-! ## What a step and a run keep -/

namespace Config

variable (c : Config)

def MayDraw (s : Statement) : Prop :=
  (c.sampler.invalidRate ≤ 0 → s.isValid) ∧ (1 ≤ c.sampler.invalidRate → ¬ s.isValid)

/-- A trial that began with `audit` and made `n` insertions, with the statements it drew. -/
structure Stands (audit : Audit) (n : Nat) (r : Progress × List Statement) : Prop where
  follows : r.1.Follows audit r.2
  length : r.2.length = n
  queryChecks : r.1.queryChecks = n / max c.interval 1
  drawn : ∀ s ∈ r.2, c.MayDraw s

variable (hsubjects : 0 < c.sampler.subjects) (hpredicates : 0 < c.sampler.predicates)
include hsubjects hpredicates

theorem yields_checkIfDue {audit : Audit} {drawn : List Statement} {p : Progress}
    (h : p.Follows audit drawn) (index : Nat) :
    Yields (c.checkIfDue p index) fun p' => p'.Follows audit drawn ∧
      p'.queryChecks = p.queryChecks + if max c.interval 1 ∣ index + 1 then 1 else 0 := by
  unfold checkIfDue
  simp only [Nat.dvd_iff_mod_eq_zero]
  by_cases hdue : (index + 1) % max c.interval 1 = 0
  · simp only [hdue, if_true]
    refine (c.sampler.yields_predicateName hpredicates).bind fun name _ => ?_
    refine (c.sampler.yields_expr hsubjects hpredicates).bind fun a ha => ?_
    refine (c.sampler.yields_expr hsubjects hpredicates).bind fun b hb => .pure ?_
    exact ⟨h.check index name ha.neverFails hb.neverFails, rfl⟩
  · simp only [hdue, if_false]
    exact .pure ⟨h, rfl⟩

theorem yields_recordedStep {audit : Audit} {n : Nat} {r : Progress × List Statement}
    (h : c.Stands audit n r) : Yields (c.recordedStep r n) (c.Stands audit (n + 1)) := by
  refine (c.sampler.yields_statement hsubjects hpredicates _).bind fun s hs => ?_
  refine (c.yields_checkIfDue hsubjects hpredicates (h.follows.insert n s) n).bind
    fun p ⟨hp, hchecks⟩ => .pure ?_
  refine ⟨hp, ?_, ?_, ?_⟩
  · rw [List.length_append, h.length, List.length_singleton]
  · rw [Nat.succ_div, ← h.queryChecks]
    exact hchecks
  · intro s' hs'
    rcases List.mem_append.mp hs' with hs' | hs'
    · exact h.drawn s' hs'
    · rw [List.mem_singleton.mp hs']
      exact hs

theorem yields_recordedRun (audit : Audit) (n : Nat) :
    Yields (c.recordedRun n audit) (c.Stands audit n) := by
  refine Yields.foldlM_range (c.Stands audit) ?_
    (fun i r h => c.yields_recordedStep hsubjects hpredicates h) n
  exact ⟨.start audit, rfl, (Nat.zero_div _).symm, fun s hs => nomatch hs⟩

omit hsubjects hpredicates

/-! ## The answer of a trial -/

structure Answers (n : Nat) (p : Progress) (drawn : List Statement) : Prop where
  length : drawn.length = n
  operations : p.operations = p.stored + p.rejected ∧ p.operations = n
  queryChecks : p.queryChecks = n / max c.interval 1
  stored : p.stored = p.store.size
  rejected : p.rejected = drawn.countP fun s => !s.isValid
  allValid : c.sampler.invalidRate ≤ 0 → p.rejected = 0
  noneValid : 1 ≤ c.sampler.invalidRate → p.stored = 0

theorem Stands.answers {audit : Audit} {n : Nat} {r : Progress × List Statement}
    (h : c.Stands audit n r) : c.Answers n r.1 r.2 := by
  refine ⟨h.length, ⟨rfl, ?_⟩, h.queryChecks, h.follows.size_store.symm, h.follows.rejected, ?_, ?_⟩
  · rw [h.follows.operations, h.length]
  · intro hrate
    rw [h.follows.rejected, List.countP_eq_zero]
    intro s hs
    simp [(h.drawn s hs).1 hrate]
  · intro hrate
    rw [h.follows.stored, List.countP_eq_zero]
    exact fun s hs => (h.drawn s hs).2 hrate

include hsubjects hpredicates

theorem yields_recordedRuns (ns : List Nat) (audit : Audit) :
    Yields (c.recordedRuns ns audit) fun trials =>
      List.Forall₂ (fun n r => c.Answers n r.1 r.2) ns trials ∧
      ((∀ r ∈ trials, r.1.store.FitsIds) → ∀ r ∈ trials, r.1.audit = audit) := by
  induction ns generalizing audit with
  | nil => exact .pure ⟨.nil, fun _ r hr => nomatch hr⟩
  | cons n ns ih =>
    refine (c.yields_recordedRun hsubjects hpredicates audit n).bind fun r hr => ?_
    refine (ih r.1.audit).bind fun trials ⟨hanswers, haudits⟩ =>
      .pure ⟨.cons hr.answers hanswers, ?_⟩
    intro hfits
    obtain ⟨hfit, hfits⟩ := List.forall_mem_cons.mp hfits
    have haudit : r.1.audit = audit := hr.follows.audit hfit
    rw [haudit] at haudits
    exact List.forall_mem_cons.mpr ⟨haudit, haudits hfits⟩

/-- Whatever is drawn, trials go through and find nothing. -/
theorem trials_find_nothing (ns : List Nat) (d : Draws) :
    ∃ trials d', c.recordedRuns ns {} d = .ok (trials, d') ∧
      c.runs ns {} d = .ok (trials.map Prod.fst, d') ∧
      List.Forall₂ (fun n r => c.Answers n r.1 r.2) ns trials ∧
      ((∀ r ∈ trials, r.1.store.FitsIds) → ∀ r ∈ trials, r.1.audit.violations = []) := by
  obtain ⟨trials, d', hrun, hanswers, haudits⟩ :=
    c.yields_recordedRuns hsubjects hpredicates ns {} d
  refine ⟨trials, d', hrun, ?_, hanswers, ?_⟩
  · rw [runs_eq_map]
    change (c.recordedRuns ns {} d >>= fun r => _) = _
    rw [hrun]
    rfl
  · intro hfits r hr
    rw [haudits hfits r hr]

omit hsubjects hpredicates

def validOnly : Config :=
  { sampler := { invalidRate := .negInf, reificationRate := .nan }, interval := 0 }

theorem validOnly_finds_nothing :
    0 < validOnly.sampler.subjects ∧ 0 < validOnly.sampler.predicates ∧
      ∃ trials d', validOnly.runs [2, 3] {} (Draws.ofSeed 7) = .ok (trials, d') ∧
        trials.map (fun p => (p.stored, p.rejected, p.queryChecks)) = [(2, 0, 2), (3, 0, 3)] ∧
        ∀ p ∈ trials, p.audit.violations = [] := by
  refine ⟨by decide, by decide, ?_⟩
  obtain ⟨trials, d', -, hruns, hanswers, hnothing⟩ :=
    validOnly.trials_find_nothing (by decide) (by decide) [2, 3] (Draws.ofSeed 7)
  refine ⟨_, d', hruns, ?_⟩
  match trials, hanswers with
  | [r₁, r₂], .cons h₁ (.cons h₂ .nil) =>
    have hsize {n : Nat} {r : Progress × List Statement} (h : validOnly.Answers n r.1 r.2) :
        r.1.rejected = 0 ∧ r.1.stored = n := by
      obtain ⟨hsum, hn⟩ := h.operations
      have hrejected : r.1.rejected = 0 := h.allValid (by decide)
      omega
    have hfits : ∀ r ∈ [r₁, r₂], r.1.store.FitsIds := by
      simp only [Store.FitsIds, List.forall_mem_cons, List.not_mem_nil, false_imp_iff,
        implies_true, and_true, ← h₁.stored, ← h₂.stored, (hsize h₁).2, (hsize h₂).2]
      decide
    constructor
    · simp only [List.map_cons, List.map_nil, hsize h₁, hsize h₂, h₁.queryChecks, h₂.queryChecks]
      rfl
    · intro p hp
      obtain ⟨r, hr, rfl⟩ := List.mem_map.mp hp
      exact hnothing hfits r hr

end Config

end Trial

end TripleStore
