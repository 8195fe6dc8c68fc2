import Mathlib.Algebra.Order.Field.Rat
import Mathlib.Tactic.Linarith
import TripleStore.Proofs.Chains
import TripleStore.Proofs.Failures
import TripleStore.Trial.Sampler

/-! # What a sampler draws -/

namespace TripleStore

namespace Trial

variable {α β σ : Type}

/-- From any source something is drawn, and it has `P`. -/
def Yields (x : Drawn α) (P : α → Prop) : Prop := ∀ d, ∃ a d', x d = .ok (a, d') ∧ P a

namespace Yields

variable {x : Drawn α} {f : α → Drawn β} {P P' : α → Prop} {Q : β → Prop}

theorem pure {a : α} (h : P a) : Yields (Pure.pure a) P := fun d => ⟨a, d, rfl, h⟩

theorem bind (hx : Yields x P) (hf : ∀ a, P a → Yields (f a) Q) : Yields (x >>= f) Q := by
  intro d
  obtain ⟨a, d', ha, hP⟩ := hx d
  obtain ⟨b, d'', hb, hQ⟩ := hf a hP d'
  refine ⟨b, d'', ?_, hQ⟩
  change (x d >>= fun r => f r.1 r.2) = _
  rw [ha]
  exact hb

theorem mono (hx : Yields x P) (h : ∀ a, P a → P' a) : Yields x P' := by
  intro d
  obtain ⟨a, d', ha, hP⟩ := hx d
  exact ⟨a, d', ha, h a hP⟩

theorem foldlM_range {f : σ → Nat → Drawn σ} {s : σ} (I : Nat → σ → Prop) (hstart : I 0 s)
    (hstep : ∀ i s, I i s → Yields (f s i) (I (i + 1))) (n : Nat) :
    Yields ((List.range n).foldlM f s) (I n) := by
  induction n with
  | zero => exact pure hstart
  | succ n ih =>
    rw [List.range_succ, List.foldlM_append]
    refine ih.bind fun s' hs' => ?_
    simpa only [List.foldlM_cons, List.foldlM_nil, bind_pure] using hstep n s' hs'

end Yields

/-! ## Single draws -/

theorem yields_below {n : Nat} (h : 0 < n) : Yields (below n) fun k => k < n := by
  intro d
  unfold below
  rw [if_neg (Nat.ne_of_gt h)]
  exact ⟨_, _, rfl, Nat.mod_lt _ h⟩

theorem yields_coin : Yields coin fun _ => True :=
  (yields_below (by decide)).bind fun _ _ => .pure trivial

theorem Rate.not_num_lt {q : Rat} {rate : Rate} (hq : 0 ≤ q) (h : rate ≤ 0) : ¬ num q < rate := by
  cases rate with
  | nan | negInf => exact Bool.false_ne_true
  | posInf => exact absurd h Bool.false_ne_true
  | num r =>
    have hr : r ≤ 0 := of_decide_eq_true h
    intro hlt
    have hlt : q < r := of_decide_eq_true hlt
    linarith

theorem Rate.num_lt {q : Rat} {rate : Rate} (hq : q < 1) (h : 1 ≤ rate) : num q < rate := by
  cases rate with
  | nan | negInf => exact absurd h Bool.false_ne_true
  | posInf => rfl
  | num r =>
    have hr : 1 ≤ r := of_decide_eq_true h
    exact decide_eq_true (by linarith : q < r)

theorem yields_chance (rate : Rate) :
    Yields (chance rate) fun b => (rate ≤ 0 → b = false) ∧ (1 ≤ rate → b = true) := by
  refine (yields_below (by decide)).bind fun k hk => .pure ?_
  have hgrain : (0 : Rat) < (grain : Nat) := by decide
  have hnonneg : 0 ≤ ((k : Nat) : Rat) / (grain : Nat) :=
    div_nonneg (Nat.cast_nonneg k) hgrain.le
  have hlt : ((k : Nat) : Rat) / (grain : Nat) < 1 := by
    rw [div_lt_one₀ hgrain]
    exact Nat.cast_lt.mpr hk
  exact ⟨fun h => decide_eq_false (Rate.not_num_lt hnonneg h),
    fun h => decide_eq_true (Rate.num_lt hlt h)⟩

end Trial

/-! ## Valid and invalid statements -/

theorem Resource.isEmpty_parse (text : String) : (parse text).isEmpty = text.isEmpty := by
  unfold parse
  cases h : refOf? text with
  | none => rfl
  | some id =>
    cases ht : text.isEmpty with
    | false => rfl
    | true =>
      rw [String.isEmpty_iff.mp ht] at h
      cases h

theorem Resource.parse_of_head?_ne {text : String} (h : text.toList.head? ≠ some '[') :
    parse text = .name text := by
  have hnone : refOf? text = none := by
    unfold refOf?
    cases ht : text.toList with
    | nil => rfl
    | cons c cs =>
      rw [ht, List.head?_cons, ne_eq, Option.some.injEq] at h
      simp [h]
  rw [parse, hnone]

theorem Resource.within_of_eq_name {r : Resource} {text : String} (h : r = .name text)
    (bound : Int) : ∀ id, r = .ref id → 0 ≤ id ∧ id < bound := by
  intro id hid
  rw [h] at hid
  cases hid

namespace Statement

theorem isValid_literal (subject : Resource) (predicate object : String) :
    (literal subject predicate object).isValid = (!subject.isEmpty && !object.isEmpty) := rfl

theorem isValid_resource (subject : Resource) (predicate object : String) :
    (resource subject predicate object).isValid = (!subject.isEmpty && !object.isEmpty) := by
  rw [← Resource.isEmpty_parse object, ← Resource.ofOwned_eq_parse]
  rfl

theorem isValid_of_invalid (subject : Resource) (predicate object : String) :
    (new subject predicate object .invalid).isValid = false := by
  simp [isValid, new, Object.ofText]

section RefersBelow

variable {subject : Resource} {bound : Int} (h : ∀ id, subject = .ref id → 0 ≤ id ∧ id < bound)
include h

theorem refersBelow_literal (predicate object : String) :
    (literal subject predicate object).RefersBelow bound :=
  ⟨h, fun _ hobject => nomatch hobject⟩

theorem refersBelow_of_invalid (predicate object : String) :
    (new subject predicate object .invalid).RefersBelow bound :=
  ⟨h, fun _ hobject => nomatch hobject⟩

theorem refersBelow_resource {object : String} (hobject : Resource.ofOwned object = .name object)
    (predicate : String) : (resource subject predicate object).RefersBelow bound := by
  refine ⟨h, ?_⟩
  intro id
  simp only [resource, new, Object.ofText, hobject]
  rintro ⟨⟩

end RefersBelow

end Statement

/-! ## Expressions that resolve in every store -/

def Expr.NeverFails (e : Expr) : Prop := ∀ q ∈ e.nested, ∀ s, q.projection.value? s ≠ none

theorem Expr.neverFails_of_nested_eq_nil {e : Expr} (h : e.nested = []) : e.NeverFails := by
  intro q hq
  rw [h] at hq
  cases hq

theorem Expr.NeverFails.append {e a b : Expr} (ha : a.NeverFails) (hb : b.NeverFails)
    (h : e.nested = a.nested ++ b.nested) : e.NeverFails := by
  intro q hq
  rw [h, List.mem_append] at hq
  rcases hq with hq | hq
  · exact ha q hq
  · exact hb q hq

theorem Expr.NeverFails.inSubjects {filter : Expr} (h : filter.NeverFails) (t : Term) :
    (Expr.inSelect t .subject filter).NeverFails := by
  intro q hq
  rw [nested, List.mem_append, List.mem_singleton] at hq
  rcases hq with hq | rfl
  · exact h q hq
  · intro s
    simp [Term.value?, Term.eval, Except.toOption]

theorem Expr.NeverFails.exists_resolve {e : Expr} (h : e.NeverFails) (st : Store) :
    ∃ r, (st.resolve e).outcome = .ok r := by
  rw [Store.exists_resolve_eq_ok_iff]
  rintro q hq ⟨s, -, -, hs⟩
  exact h q hq s hs

/-- What is drawn: comparisons with constants, under at most so many combinations and nested selects
of subjects. -/
inductive Expr.Drawable : Nat → Expr → Prop
  | everything {depth : Nat} : Drawable depth .everything
  | against {depth : Nat} (t : Term) (op : CompareOp) (v : Value) : Drawable depth (t.against op v)
  | inSubjects {depth : Nat} {filter : Expr} (h : Drawable depth filter) :
      Drawable (depth + 1) (.inSelect .subject .subject filter)
  | and {depth : Nat} {a b : Expr} (ha : Drawable depth a) (hb : Drawable depth b) :
      Drawable (depth + 1) (.and a b)
  | or {depth : Nat} {a b : Expr} (ha : Drawable depth a) (hb : Drawable depth b) :
      Drawable (depth + 1) (.or a b)
  | not {depth : Nat} {a : Expr} (ha : Drawable depth a) : Drawable (depth + 1) (.not a)

theorem Expr.Drawable.neverFails {depth : Nat} {e : Expr} (h : Drawable depth e) :
    e.NeverFails := by
  induction h with
  | everything | against => exact neverFails_of_nested_eq_nil rfl
  | inSubjects _ ih => exact ih.inSubjects .subject
  | and _ _ iha ihb | or _ _ iha ihb => exact iha.append ihb rfl
  | not _ ih => exact ih

theorem Expr.Drawable.depth_le {depth : Nat} {e : Expr} (h : Drawable depth e) :
    e.depth ≤ depth := by
  induction h with
  | everything | against => exact Nat.zero_le _
  | inSubjects _ ih => exact Nat.succ_le_succ ih
  | and _ _ iha ihb | or _ _ iha ihb => exact Nat.succ_le_succ (Nat.max_le.mpr ⟨iha, ihb⟩)
  | not _ ih => exact Nat.succ_le_succ ih

namespace Trial.Sampler

variable (c : Sampler)

/-! ## Drawn names -/

theorem isEmpty_toString (n : Nat) : (toString n).isEmpty = false := by
  rw [Bool.eq_false_iff, ne_eq, String.isEmpty_iff, Decimal.toString_eq_ofList_digits,
    ← String.toList_inj, String.toList_ofList]
  exact Decimal.digits_ne_nil n

theorem yields_predicateName (h : 0 < c.predicates) : Yields c.predicateName fun _ => True :=
  (yields_below h).bind fun _ _ => .pure trivial

theorem yields_subjectName (h : 0 < c.subjects) :
    Yields c.subjectName fun name =>
      name.isEmpty = false ∧ Resource.ofOwned name = .name name := by
  refine (yields_below h).bind fun k _ => .pure ⟨by simp, ?_⟩
  rw [Resource.ofOwned_eq_parse, Resource.parse_of_head?_ne (by simp)]

theorem yields_digit : Yields digit fun text => text.isEmpty = false :=
  (yields_below (by decide)).bind fun k _ => .pure (isEmpty_toString k)

/-! ## Drawn statements -/

/-- The rest of the draw, once it is decided whether the statement is to be invalid. -/
def statementMeant (stored : Int) (invalid : Bool) : Drawn Statement := do
  if invalid then c.invalidStatement
  else
    let predicate ← c.predicateName
    if 0 < stored then
      if ← chance c.reificationRate then reifying stored predicate
      else c.plainStatement predicate
    else c.plainStatement predicate

theorem statement_eq (stored : Int) :
    c.statement stored = chance c.invalidRate >>= c.statementMeant stored := rfl

section Named

variable (hsubjects : 0 < c.subjects) (hpredicates : 0 < c.predicates)
include hsubjects

theorem yields_plainStatement (predicate : String) (bound : Int) :
    Yields (c.plainStatement predicate) fun s => s.isValid ∧ s.RefersBelow bound := by
  refine (c.yields_subjectName hsubjects).bind fun subject ⟨hsubject, hname⟩ => ?_
  refine yields_coin.bind fun literal _ => ?_
  cases literal with
  | true =>
    refine yields_digit.bind fun text htext => .pure ⟨?_, ?_⟩
    · simp [Statement.isValid_literal, Resource.isEmpty_parse, hsubject, htext]
    · exact Statement.refersBelow_literal (Resource.within_of_eq_name hname bound) _ _
  | false =>
    refine (c.yields_subjectName hsubjects).bind fun object ⟨hobject, hnamed⟩ => .pure ⟨?_, ?_⟩
    · simp [Statement.isValid_resource, Resource.isEmpty_parse, hsubject, hobject]
    · exact Statement.refersBelow_resource (Resource.within_of_eq_name hname bound) hnamed _

omit hsubjects in
theorem yields_reifying {stored : Int} (h : 0 < stored) (predicate : String) :
    Yields (reifying stored predicate) fun s => s.isValid ∧ s.RefersBelow stored := by
  refine (yields_below (by omega)).bind fun target htarget => ?_
  refine yields_coin.bind fun verdict _ => .pure ⟨?_, ?_⟩
  · cases verdict <;> rfl
  · refine Statement.refersBelow_literal ?_ _ _
    intro id hid
    have hid : (if (target : Int) < 0 then _ else Resource.ref target) = .ref id := hid
    rw [if_neg (by omega)] at hid
    obtain rfl := Resource.ref.inj hid
    omega

include hpredicates

theorem yields_invalidStatement (bound : Int) :
    Yields c.invalidStatement fun s => s.isValid = false ∧ s.RefersBelow bound := by
  refine (yields_below (by decide)).bind fun k _ => ?_
  split
  · refine (c.yields_predicateName hpredicates).bind fun predicate _ => .pure ⟨?_, ?_⟩
    · simp [Statement.isValid_literal, Resource.isEmpty_parse]
    · exact Statement.refersBelow_literal (Resource.within_of_eq_name rfl bound) _ _
  · refine (c.yields_subjectName hsubjects).bind fun subject ⟨_, hname⟩ => ?_
    refine (c.yields_predicateName hpredicates).bind fun predicate _ => .pure ⟨?_, ?_⟩
    · simp [Statement.isValid_literal]
    · exact Statement.refersBelow_literal (Resource.within_of_eq_name hname bound) _ _
  · refine (c.yields_subjectName hsubjects).bind fun subject ⟨_, hname⟩ => ?_
    refine (c.yields_predicateName hpredicates).bind fun predicate _ => .pure ⟨?_, ?_⟩
    · exact Statement.isValid_of_invalid _ _ _
    · exact Statement.refersBelow_of_invalid (Resource.within_of_eq_name hname bound) _ _

theorem yields_statementMeant (stored : Int) (invalid : Bool) :
    Yields (c.statementMeant stored invalid) fun s =>
      s.isValid = !invalid ∧ s.RefersBelow stored := by
  cases invalid with
  | true => exact c.yields_invalidStatement hsubjects hpredicates stored
  | false =>
    refine (c.yields_predicateName hpredicates).bind fun predicate _ => ?_
    by_cases hstored : 0 < stored
    · simp only [hstored, if_true]
      refine (yields_chance c.reificationRate).bind fun reified _ => ?_
      cases reified with
      | true => exact yields_reifying hstored predicate
      | false => exact c.yields_plainStatement hsubjects predicate stored
    · simp only [hstored, if_false]
      exact c.yields_plainStatement hsubjects predicate stored

theorem yields_statement (stored : Int) :
    Yields (c.statement stored) fun s =>
      (c.invalidRate ≤ 0 → s.isValid) ∧ (1 ≤ c.invalidRate → ¬ s.isValid) := by
  rw [statement_eq]
  refine (yields_chance c.invalidRate).bind fun invalid hrate => ?_
  refine (c.yields_statementMeant hsubjects hpredicates stored invalid).mono fun s ⟨hs, _⟩ => ?_
  rw [hs]
  constructor
  · intro h
    simp [hrate.1 h]
  · intro h
    simp [hrate.2 h]

theorem yields_statement_refersBelow (stored : Int) :
    Yields (c.statement stored) fun s => s.RefersBelow stored := by
  rw [statement_eq]
  refine (yields_chance c.invalidRate).bind fun invalid _ => ?_
  exact (c.yields_statementMeant hsubjects hpredicates stored invalid).mono fun s hs => hs.2

/-! ## Drawn expressions -/

theorem yields_leaf (depth : Nat) : Yields c.leaf (Expr.Drawable depth) := by
  refine (yields_below (by decide)).bind fun k _ => ?_
  split
  · exact .pure .everything
  · exact (c.yields_predicateName hpredicates).bind fun name _ => .pure (.against _ _ _)
  · exact (c.yields_subjectName hsubjects).bind fun name _ => .pure (.against _ _ _)
  · exact (c.yields_subjectName hsubjects).bind fun name _ => .pure (.against _ _ _)
  · exact (yields_below (by decide)).bind fun n _ => .pure (.against _ _ _)
  · refine (c.yields_predicateName hpredicates).bind fun name _ => ?_
    exact yields_digit.bind fun text _ => .pure (.against _ _ _)
  · exact .pure (.against _ _ _)
  · exact (yields_below (by decide)).bind fun n _ => .pure (.against _ _ _)
  · exact .pure (.against _ _ _)

theorem yields_exprOfDepth (depth : Nat) : Yields (c.exprOfDepth depth) (Expr.Drawable depth) := by
  induction depth with
  | zero => exact c.yields_leaf hsubjects hpredicates 0
  | succ depth ih =>
    refine (yields_chance (.num (2 / 5))).bind fun leaf _ => ?_
    cases leaf with
    | true => exact c.yields_leaf hsubjects hpredicates (depth + 1)
    | false =>
      refine (yields_below (by decide)).bind fun k _ => ?_
      split
      · exact ih.bind fun a ha => ih.bind fun b hb => .pure (ha.and hb)
      · exact ih.bind fun a ha => ih.bind fun b hb => .pure (ha.or hb)
      · exact ih.bind fun a ha => .pure ha.not
      · exact ih.bind fun filter hfilter => .pure hfilter.inSubjects

theorem yields_expr : Yields c.expr (Expr.Drawable c.maxDepth) :=
  c.yields_exprOfDepth hsubjects hpredicates c.maxDepth

end Named

end Trial.Sampler

end TripleStore
