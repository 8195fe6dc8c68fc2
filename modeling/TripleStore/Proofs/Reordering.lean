import Mathlib.Data.List.Perm.Basic
import TripleStore.Proofs.Failures

/-! # Stores in another order -/

namespace TripleStore

variable {β : Type}

/-! ## Triples -/

namespace Statement

abbrev Triple := Resource × String × Option Object

def triple (s : Statement) : Triple := (s.subject, s.predicate, s.object)

def ofTriple (x : Triple) : Statement := { subject := x.1, predicate := x.2.1, object := x.2.2 }

theorem triple_ofTriple (x : Triple) : (ofTriple x).triple = x := rfl

theorem triple_eq_iff {s s' : Statement} :
    s.triple = s'.triple ↔
      s.subject = s'.subject ∧ s.predicate = s'.predicate ∧ s.object = s'.object := by
  simp [triple]

end Statement

/-! ## Terms that ask for no id -/

namespace Term

def isIdFree : Term → Bool
  | statementId => false
  | subject | predicate | object | objectKind | attributeOf _ => true
  | parseInt inner | reifiedId inner => inner.isIdFree

theorem eval_eq_of_triple_eq {t : Term} (ht : t.isIdFree) {s s' : Statement}
    (h : s.triple = s'.triple) : t.eval s = t.eval s' := by
  obtain ⟨hsubject, hpredicate, hobject⟩ := Statement.triple_eq_iff.mp h
  induction t with
  | statementId => simp [isIdFree] at ht
  | subject => simp only [eval, Statement.subjectText, hsubject]
  | predicate => simp only [eval, hpredicate]
  | object => simp only [eval, Statement.objectText, hobject]
  | objectKind => simp only [eval, Statement.kind, hobject]
  | attributeOf name => simp only [eval, Statement.objectText, hpredicate, hobject]
  | parseInt inner ih | reifiedId inner ih =>
    unfold isIdFree at ht
    simp only [eval, ih ht]

theorem value?_eq_of_triple_eq {t : Term} (ht : t.isIdFree) {s s' : Statement}
    (h : s.triple = s'.triple) : t.value? s = t.value? s' := by
  rw [value?, value?, eval_eq_of_triple_eq ht h]

end Term

def Scalar.isIdFree : Scalar → Bool
  | value _ => true
  | term t => t.isIdFree

theorem Scalar.value?_eq_of_triple_eq {rhs : Scalar} (hrhs : rhs.isIdFree) {s s' : Statement}
    (h : s.triple = s'.triple) : rhs.value? s = rhs.value? s' := by
  cases rhs with
  | value v => rfl
  | term t => exact t.value?_eq_of_triple_eq hrhs h

/-! ## Expressions over the same triples -/

def SameTriples (stored stored' : List Statement) : Prop :=
  ∀ x, x ∈ stored.map Statement.triple ↔ x ∈ stored'.map Statement.triple

namespace SameTriples

variable {stored stored' : List Statement}

theorem of_perm (h : (stored.map Statement.triple).Perm (stored'.map Statement.triple)) :
    SameTriples stored stored' := fun _ => h.mem_iff

theorem refl (stored : List Statement) : SameTriples stored stored := fun _ => Iff.rfl

theorem symm (h : SameTriples stored stored') : SameTriples stored' stored := fun x => (h x).symm

variable {P P' : Statement → Prop}

theorem exists_of_exists (h : SameTriples stored stored')
    (hP : ∀ s s', s.triple = s'.triple → P s → P' s') :
    (∃ s ∈ stored, P s) → ∃ s ∈ stored', P' s := by
  rintro ⟨s, hs, hPs⟩
  obtain ⟨s', hs', heq⟩ := List.mem_map.mp ((h s.triple).mp (List.mem_map_of_mem hs))
  exact ⟨s', hs', hP s s' heq.symm hPs⟩

theorem exists_iff (h : SameTriples stored stored')
    (hP : ∀ s s', s.triple = s'.triple → (P s ↔ P' s')) :
    (∃ s ∈ stored, P s) ↔ ∃ s ∈ stored', P' s :=
  ⟨h.exists_of_exists fun s s' heq => (hP s s' heq).mp,
    h.symm.exists_of_exists fun s' s heq => (hP s s' heq.symm).mpr⟩

theorem forall_iff (h : SameTriples stored stored')
    (hP : ∀ s s', s.triple = s'.triple → (P s ↔ P' s')) :
    (∀ s ∈ stored, P s) ↔ ∀ s ∈ stored', P' s := by
  have hnot := h.exists_iff (P := fun s => ¬ P s) fun s s' heq => not_congr (hP s s' heq)
  simpa using not_congr hnot

end SameTriples

namespace Expr

/-- No term of the expression, or of a nested select at any depth, asks for an id. -/
def isIdFree : Expr → Bool
  | everything => true
  | compare t _ rhs => t.isIdFree && rhs.isIdFree
  | inValues t _ => t.isIdFree
  | inSelect t projection filter => t.isIdFree && projection.isIdFree && filter.isIdFree
  | and a b | or a b => a.isIdFree && b.isIdFree
  | not a => a.isIdFree

variable {stored stored' : List Statement} {e : Expr}

theorem sat_iff_of_triple_eq (h : SameTriples stored stored') (he : e.isIdFree) {s s' : Statement}
    (hs : s.triple = s'.triple) : e.Sat stored s ↔ e.Sat stored' s' := by
  induction e generalizing s s' with
  | everything => exact Iff.rfl
  | compare t op rhs =>
    simp only [isIdFree, Bool.and_eq_true] at he
    simp only [Sat, t.value?_eq_of_triple_eq he.1 hs, rhs.value?_eq_of_triple_eq he.2 hs]
  | inValues t values =>
    unfold isIdFree at he
    simp only [Sat, t.value?_eq_of_triple_eq he hs]
  | inSelect t projection filter ih =>
    simp only [isIdFree, Bool.and_eq_true] at he
    obtain ⟨⟨ht, hprojection⟩, hfilter⟩ := he
    simp only [Sat, t.value?_eq_of_triple_eq ht hs]
    -- What the nested select has from one store it has from the same triple in the other.
    refine h.exists_iff fun q q' hq => and_congr (ih hfilter hq) ?_
    rw [projection.value?_eq_of_triple_eq hprojection hq]
  | and a b iha ihb =>
    simp only [isIdFree, Bool.and_eq_true] at he
    exact and_congr (iha he.1 hs) (ihb he.2 hs)
  | or a b iha ihb =>
    simp only [isIdFree, Bool.and_eq_true] at he
    exact or_congr (iha he.1 hs) (ihb he.2 hs)
  | not a ih => exact not_congr (ih he hs)

theorem map_triple_matchesIn (he : e.isIdFree) (stored : List Statement) :
    (e.matchesIn stored).map Statement.triple =
      (stored.map Statement.triple).filter fun x => e.Sat stored (.ofTriple x) := by
  rw [List.filter_map, matchesIn]
  congr 1
  refine List.filter_congr fun s _ => ?_
  rw [Function.comp_apply, decide_eq_decide]
  exact sat_iff_of_triple_eq (.refl stored) he (Statement.triple_ofTriple s.triple).symm

theorem perm_map_triple_matchesIn (he : e.isIdFree)
    (h : (stored.map Statement.triple).Perm (stored'.map Statement.triple)) :
    ((e.matchesIn stored).map Statement.triple).Perm
      ((e.matchesIn stored').map Statement.triple) := by
  have hsat : (fun x => decide (e.Sat stored (.ofTriple x))) =
      fun x => decide (e.Sat stored' (.ofTriple x)) := by
    funext x
    rw [decide_eq_decide]
    exact sat_iff_of_triple_eq (.of_perm h) he rfl
  rw [map_triple_matchesIn he, map_triple_matchesIn he, hsat]
  exact h.filter _

theorem isIdFree_of_mem_nested (he : e.isIdFree) {q : Nested} (hq : q ∈ e.nested) :
    q.projection.isIdFree ∧ q.filter.isIdFree := by
  induction e with
  | everything | compare | inValues => simp [nested] at hq
  | inSelect t projection filter ih =>
    simp only [isIdFree, Bool.and_eq_true] at he
    rcases List.mem_append.mp hq with hq | hq
    · exact ih he.2 hq
    · obtain rfl := List.mem_singleton.mp hq
      exact ⟨he.1.2, he.2⟩
  | and a b iha ihb | or a b iha ihb =>
    simp only [isIdFree, Bool.and_eq_true] at he
    rcases List.mem_append.mp hq with hq | hq
    · exact iha he.1 hq
    · exact ihb he.2 hq
  | not a ih => exact ih he hq

end Expr

theorem Nested.fails_iff_of_sameTriples {stored stored' : List Statement}
    (h : SameTriples stored stored') {q : Nested} (hprojection : q.projection.isIdFree)
    (hfilter : q.filter.isIdFree) : q.Fails stored ↔ q.Fails stored' := by
  refine h.exists_iff fun s s' hs => and_congr (Expr.sat_iff_of_triple_eq h hfilter hs) ?_
  rw [q.projection.value?_eq_of_triple_eq hprojection hs]

/-! ## Selects on both stores -/

namespace TermProjection

def term : TermProjection β → Term
  | value t => t
  | typed _ t => t

theorem apply_eq_ok_iff_of_triple_eq {p : TermProjection β} (hp : p.term.isIdFree)
    {s s' : Statement} (h : s.triple = s'.triple) (x : β) :
    p.apply s = .ok x ↔ p.apply s' = .ok x := by
  cases p with
  | value t =>
    simp only [apply, Term.project_eq_ok_iff, t.value?_eq_of_triple_eq hp h]
  | typed β t =>
    simp only [apply, Term.typed_eq_ok_iff, t.value?_eq_of_triple_eq hp h]

theorem toOption_apply_eq_of_triple_eq {p : TermProjection β} (hp : p.term.isIdFree)
    {s s' : Statement} (h : s.triple = s'.triple) :
    (p.apply s).toOption = (p.apply s').toOption := by
  have hiff := apply_eq_ok_iff_of_triple_eq hp h
  cases hs : p.apply s <;> cases hs' : p.apply s' <;> simp_all [Except.toOption]

end TermProjection

namespace Store

variable {st st' : Store} {e : Expr}

theorem map_triple_of_map_ok {p : TermProjection β} (hp : p.term.isIdFree) {ss : List Statement}
    {vs : List β} (h : ss.map p.apply = vs.map .ok) :
    (ss.map Statement.triple).map (fun x => (p.apply (.ofTriple x)).toOption) = vs.map some := by
  have hoptions := congrArg (List.map Except.toOption) h
  rw [List.map_map, List.map_map] at hoptions
  rw [List.map_map]
  refine Eq.trans (List.map_congr_left fun s _ => ?_) hoptions
  exact TermProjection.toOption_apply_eq_of_triple_eq hp (Statement.triple_ofTriple s.triple)

/-- Where no term asks for an id, the order of a store is only the order of the answers. -/
theorem select_of_reordered (p : TermProjection β) (e : Expr) (hp : p.term.isIdFree)
    (he : e.isIdFree)
    (h : (st.toList.map Statement.triple).Perm (st'.toList.map Statement.triple)) :
    ((∃ vs, (st.select p.apply e).outcome = .ok vs) ↔
      ∃ vs, (st'.select p.apply e).outcome = .ok vs) ∧
    ∀ vs vs', (st.select p.apply e).outcome = .ok vs →
      (st'.select p.apply e).outcome = .ok vs' → vs.Perm vs' := by
  have hmatches := Expr.perm_map_triple_matchesIn he h
  constructor
  · rw [exists_select_eq_ok_iff, exists_select_eq_ok_iff]
    refine and_congr (forall₂_congr fun q hq => not_congr ?_) ?_
    · obtain ⟨hprojection, hfilter⟩ := Expr.isIdFree_of_mem_nested he hq
      exact Nested.fails_iff_of_sameTriples (.of_perm h) hprojection hfilter
    · refine (SameTriples.of_perm hmatches).forall_iff fun s s' hs => exists_congr fun v => ?_
      exact TermProjection.apply_eq_ok_iff_of_triple_eq hp hs v
  · intro vs vs' hvs hvs'
    have hvalues := map_triple_of_map_ok hp (outcome_select_eq_ok_iff.mp hvs).2
    have hvalues' := map_triple_of_map_ok hp (outcome_select_eq_ok_iff.mp hvs').2
    rw [← List.map_perm_map_iff fun _ _ => Option.some.inj, ← hvalues, ← hvalues']
    exact hmatches.map _

def familiesAndVerdicts : Expr :=
  .or largeFamilies (Term.predicate.against .eq (.text "my:evaluation"))

theorem marriages_reordered :
    familiesAndVerdicts.isIdFree ∧
      ((after marriages).toList.map Statement.triple).Perm
        ((after marriages.reverse).toList.map Statement.triple) ∧
      (∃ vs vs', ((after marriages).select (Term.predicate.typed String)
          familiesAndVerdicts).outcome = .ok vs ∧
        vs = ["my:wife", "my:evaluation", "my:evaluation"] ∧
        ((after marriages.reverse).select (Term.predicate.typed String)
          familiesAndVerdicts).outcome = .ok vs' ∧
        vs' = ["my:evaluation", "my:evaluation", "my:wife"] ∧ vs.Perm vs') ∧
      ¬ ∃ vs, ((after marriages.reverse).select (Term.parseInt .object).project
        familiesAndVerdicts).outcome = .ok vs := by
  have he : familiesAndVerdicts.isIdFree := by decide
  have h : ((after marriages).toList.map Statement.triple).Perm
      ((after marriages.reverse).toList.map Statement.triple) :=
    (List.reverse_perm ((after marriages).toList.map Statement.triple)).symm
  obtain ⟨-, hperm⟩ := select_of_reordered (.typed String .predicate) familiesAndVerdicts rfl he h
  obtain ⟨hok, -⟩ :=
    select_of_reordered (.value (.parseInt .object)) familiesAndVerdicts rfl he h
  refine ⟨he, h, ⟨_, _, rfl, rfl, rfl, rfl, hperm _ _ rfl rfl⟩, ?_⟩
  intro hfine
  obtain ⟨vs, hvs⟩ := hok.mpr hfine
  cases hvs

end Store

end TripleStore
