import TripleStore.Proofs.Trials

/-! # Drawn data is well-formed -/

namespace TripleStore

/-! ## Drawn expressions -/

theorem Expr.Drawable.of_mem_leaves {depth : Nat} {e : Expr} (h : Drawable depth e) :
    ∀ leaf ∈ e.leaves, leaf = .everything ∨ ∃ t op v, leaf = Term.against t op v := by
  induction h with
  | everything => simp [leaves]
  | against t op v =>
    intro leaf hleaf
    exact .inr ⟨t, op, v, List.mem_singleton.mp hleaf⟩
  | inSubjects _ ih => exact ih
  | and _ _ iha ihb | or _ _ iha ihb => exact List.forall_mem_append.mpr ⟨iha, ihb⟩
  | not _ ih => exact ih

theorem Expr.NeverFails.exists_selectIds {e : Expr} (h : e.NeverFails) (st : Store) :
    ∃ ids, st.selectIds e = .ok ids := by
  obtain ⟨r, hr⟩ := h.exists_resolve st
  exact ⟨st.acceptedIds r, Store.selectIds_of_resolve hr⟩

namespace Trial

/-! ## The first draw of a statement -/

theorem Sampler.statement_of_chance {c : Sampler} {stored : Int} {d d₁ d₂ : Draws}
    {invalid : Bool} {s : Statement} (hchance : chance c.invalidRate d = .ok (invalid, d₁))
    (hmeant : c.statementMeant stored invalid d₁ = .ok (s, d₂)) :
    c.statement stored d = .ok (s, d₂) := by
  rw [statement_eq]
  change (chance c.invalidRate d >>= fun r => _) = _
  rw [hchance]
  exact hmeant

/-! ## References in the store of a trial -/

structure Progress.LeadsBack (p : Progress) (audit : Audit) : Prop where
  follows : ∃ drawn, p.Follows audit drawn
  pointsBack : p.store.PointsBack

namespace Config

variable (c : Config) (hsubjects : 0 < c.sampler.subjects) (hpredicates : 0 < c.sampler.predicates)
include hsubjects hpredicates

theorem yields_step_leadsBack {audit : Audit} {p : Progress} (h : p.LeadsBack audit)
    (index : Nat) : Yields (c.step p index) fun p' => p'.LeadsBack audit := by
  obtain ⟨drawn, hfollows⟩ := h.follows
  refine (c.sampler.yields_statement_refersBelow hsubjects hpredicates _).bind fun s hs => ?_
  have hinsert := hfollows.insert index s
  refine (c.yields_checkIfDue hsubjects hpredicates hinsert index).mono fun p' ⟨hp', _⟩ => ?_
  refine ⟨⟨_, hp'⟩, ?_⟩
  -- The checks leave the store as the insertion made it.
  rw [hp'.store, ← hinsert.store]
  exact h.pointsBack.add hs

theorem yields_run_leadsBack (n : Nat) (audit : Audit) :
    Yields (c.run n audit) fun p => p.LeadsBack audit := by
  have hstart : Progress.LeadsBack { audit } audit := ⟨⟨[], .start audit⟩, Store.pointsBack_empty⟩
  exact Yields.foldlM_range (fun _ p => Progress.LeadsBack p audit) hstart
    (fun i p h => c.yields_step_leadsBack hsubjects hpredicates h i) n

/-- With names to draw from, every draw gives something, and what it gives is well-formed. -/
theorem draws_are_well_formed (d : Draws) :
    (∀ stored : Nat, ∃ invalid d₁ s d₂, chance c.sampler.invalidRate d = .ok (invalid, d₁) ∧
      c.sampler.statement stored d = .ok (s, d₂) ∧
      (invalid = true → c.sampler.invalidStatement d₁ = .ok (s, d₂)) ∧
      s.isValid = !invalid ∧ s.RefersBelow stored) ∧
    (∀ n audit, ∃ p d', c.run n audit d = .ok (p, d') ∧
      ∀ s ∈ p.store.toList, s.RefersBelow s.id ∧
        ∃ k : Nat, (k : Int) ≤ s.id ∧ p.store.EndsAfter k s) ∧
    ∃ e d', c.sampler.expr d = .ok (e, d') ∧ e.depth ≤ c.sampler.maxDepth ∧
      (∀ leaf ∈ e.leaves, leaf = .everything ∨ ∃ t op v, leaf = Term.against t op v) ∧
      ∀ st : Store, ∃ ids, st.selectIds e = .ok ids := by
  refine ⟨?_, ?_, ?_⟩
  · intro stored
    obtain ⟨invalid, d₁, hchance, -⟩ := yields_chance c.sampler.invalidRate d
    obtain ⟨s, d₂, hmeant, hvalid, hbelow⟩ :=
      c.sampler.yields_statementMeant hsubjects hpredicates stored invalid d₁
    refine ⟨invalid, d₁, s, d₂, hchance, Sampler.statement_of_chance hchance hmeant, ?_, hvalid,
      hbelow⟩
    rintro rfl
    exact hmeant
  · intro n audit
    obtain ⟨p, d', hrun, ⟨drawn, hfollows⟩, hback⟩ :=
      c.yields_run_leadsBack hsubjects hpredicates n audit d
    have hdense : p.store.Dense := by
      rw [hfollows.store]
      exact Store.dense_addAll drawn
    exact ⟨p, d', hrun, fun s hs => ⟨hback s hs, hback.exists_endsAfter hdense hs⟩⟩
  · obtain ⟨e, d', hexpr, hdrawable⟩ := c.sampler.yields_expr hsubjects hpredicates d
    exact ⟨e, d', hexpr, hdrawable.depth_le, hdrawable.of_mem_leaves,
      hdrawable.neverFails.exists_selectIds⟩

omit hsubjects hpredicates

def remarking : Config :=
  { sampler := { invalidRate := .num (1 / 2), reificationRate := 1 }, interval := 9 }

def invalidFirst : Draws := { source := fun n => if n = 0 then 0 else grain / 2 + 1 }

def subjectsOfLater : Expr :=
  .inSelect .subject .subject
    (.and (Term.objectKind.against .eq (.kind .resource))
      (.not (Term.statementId.against .lt (.int 12))))

def combinationsFirst : Draws :=
  { source := fun n => [grain / 2, 3, grain / 2, 0, 0, 6, grain / 2, 2, 7, 12].getD n 0 }

theorem remarking_draws :
    0 < remarking.sampler.subjects ∧ 0 < remarking.sampler.predicates ∧
      (∃ s d', remarking.sampler.statement 5 invalidFirst = .ok (s, d') ∧ s.isValid = false) ∧
      (∃ p d', remarking.run 4 {} invalidFirst = .ok (p, d') ∧
        p.store.toList.map Statement.line =
          ["0: s5 p1 <s5>", "1: [0] p1 \"false\"", "2: [1] p1 \"false\""] ∧
        ∀ s ∈ p.store.toList, s.RefersBelow s.id ∧
          ∃ k : Nat, (k : Int) ≤ s.id ∧ p.store.EndsAfter k s) ∧
      ∃ d', remarking.sampler.expr combinationsFirst = .ok (subjectsOfLater, d') ∧
        subjectsOfLater.depth = remarking.sampler.maxDepth ∧
        ∀ st : Store, ∃ ids, st.selectIds subjectsOfLater = .ok ids := by
  obtain ⟨hstatement, hrun, -⟩ :=
    remarking.draws_are_well_formed (by decide) (by decide) invalidFirst
  obtain ⟨-, -, e, d', hexpr, -, -, hselect⟩ :=
    remarking.draws_are_well_formed (by decide) (by decide) combinationsFirst
  refine ⟨by decide, by decide, ?_, ?_, ?_⟩
  · obtain ⟨invalid, d₁, s, d₂, hchance, hs, -, hvalid, -⟩ := hstatement 5
    have hhit : (chance remarking.sampler.invalidRate invalidFirst).toOption.map Prod.fst =
        some true := by decide +kernel
    rw [hchance] at hhit
    obtain rfl : invalid = true := Option.some.inj hhit
    exact ⟨s, d₂, hs, hvalid⟩
  · obtain ⟨p, d', hp, hchains⟩ := hrun 4 {}
    have hlines : (remarking.run 4 {} invalidFirst).toOption.map
        (fun r => r.1.store.toList.map Statement.line) =
        some ["0: s5 p1 <s5>", "1: [0] p1 \"false\"", "2: [1] p1 \"false\""] := by decide +kernel
    rw [hp] at hlines
    exact ⟨p, d', hp, Option.some.inj hlines, hchains⟩
  · have hexact : (remarking.sampler.expr combinationsFirst).toOption.map Prod.fst =
        some subjectsOfLater := by decide +kernel
    rw [hexpr] at hexact
    obtain rfl : e = subjectsOfLater := Option.some.inj hexact
    exact ⟨d', hexpr, rfl, hselect⟩

end Config

end Trial

end TripleStore
