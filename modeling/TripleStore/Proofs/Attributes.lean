import TripleStore.Proofs.Agreement
import TripleStore.Proofs.Typing

/-! # Attribute terms -/

namespace TripleStore

/-! ## Conversions around a term -/

namespace Term

/-- The conversions around the term, the outermost first. -/
def under (t : Term) (ws : List Conversion) : Term := ws.foldr Conversion.apply t

variable {t t' : Term} {s : Statement}

theorem selector_under (t : Term) (ws : List Conversion) : (t.under ws).selector = t.selector := by
  induction ws with
  | nil => rfl
  | cons w ws ih => exact (selector_apply w _).trans ih

theorem under_conversions (t : Term) : t.selector.under t.conversions = t := by
  induction t using byConversions with
  | selector t ht => rw [(eval_of_selector ht default).1, ht]; rfl
  | convert c t ih =>
    rw [selector_apply, conversions_apply]
    exact congrArg c.apply ih

theorem eval_under_cons (t : Term) (w : Conversion) (ws : List Conversion) (s : Statement) :
    (t.under (w :: ws)).eval s = (t.under ws).eval s >>= w.run := eval_apply w _ s

theorem eval_under_of_eq (h : t.eval s = t'.eval s) (ws : List Conversion) :
    (t.under ws).eval s = (t'.under ws).eval s := by
  induction ws with
  | nil => exact h
  | cons w ws ih => rw [eval_under_cons, eval_under_cons, ih]

theorem eval_under_of_error {cause : TermError} (h : t.eval s = .error cause)
    (ws : List Conversion) : (t.under ws).eval s = .error cause := by
  induction ws with
  | nil => exact h
  | cons w ws ih =>
    rw [eval_under_cons, ih]
    rfl

theorem value?_under_attributeOf (name : String) (ws : List Conversion) (s : Statement)
    (v : Value) :
    ((attributeOf name).under ws).value? s = some v ↔
      s.predicate = name ∧ (object.under ws).value? s = some v := by
  by_cases hname : s.predicate = name
  · have heval : (attributeOf name).eval s = object.eval s := by simp [eval, hname]
    rw [value?, eval_under_of_eq heval ws]
    exact ⟨fun h => ⟨hname, h⟩, fun h => h.2⟩
  · have heval : (attributeOf name).eval s = .error (.missingAttribute name) := by
      simp [eval, hname]
    rw [value?, eval_under_of_error heval ws]
    simp [Except.toOption, hname]

/-! ## Attribute terms written out -/

def attribute? (t : Term) : Option String :=
  match t.selector with
  | attributeOf name => some name
  | _ => none

/-- The same conversions of the object, if the term asks for an attribute. -/
def onObject (t : Term) : Term :=
  match t.selector with
  | attributeOf _ => object.under t.conversions
  | _ => t

theorem attribute?_onObject (t : Term) : t.onObject.attribute? = none := by
  unfold onObject
  split
  · rw [attribute?, selector_under]
    rfl
  · next h =>
    unfold attribute?
    split
    · next name hname => exact absurd hname (h name)
    · rfl

theorem value?_eq_some_iff (t : Term) (s : Statement) (v : Value) :
    t.value? s = some v ↔
      (∀ name ∈ t.attribute?, s.predicate = name) ∧ t.onObject.value? s = some v := by
  unfold attribute? onObject
  split
  · next name hname =>
    have ht : t = (attributeOf name).under t.conversions := by rw [← hname, under_conversions]
    rw [ht, value?_under_attributeOf, ← ht]
    simp
  · simp

end Term

namespace Scalar

def attribute? : Scalar → Option String
  | value _ => none
  | term t => t.attribute?

def onObject : Scalar → Scalar
  | value v => value v
  | term t => term t.onObject

def terms : Scalar → List Term
  | value _ => []
  | term t => [t]

theorem value?_eq_some_iff (rhs : Scalar) (s : Statement) (v : Value) :
    rhs.value? s = some v ↔
      (∀ name ∈ rhs.attribute?, s.predicate = name) ∧ rhs.onObject.value? s = some v := by
  cases rhs with
  | value c => simp [attribute?, onObject]
  | term t => exact t.value?_eq_some_iff s v

end Scalar

namespace Expr

def given : Option String → Expr → Expr
  | none, e => e
  | some name, e => .and (Term.predicate.against .eq (.text name)) e

/-- Every test with its attribute terms written out, but not what a nested select projects. -/
def onObjects : Expr → Expr
  | everything => everything
  | compare t op rhs =>
    given t.attribute? (given rhs.attribute? (compare t.onObject op rhs.onObject))
  | inValues t values => given t.attribute? (inValues t.onObject values)
  | inSelect t projection filter =>
    given t.attribute? (inSelect t.onObject projection filter.onObjects)
  | and a b => and a.onObjects b.onObjects
  | or a b => or a.onObjects b.onObjects
  | not a => not a.onObjects

/-- The terms that are tested, those in the filters of nested selects included. -/
def tested : Expr → List Term
  | everything => []
  | compare t _ rhs => t :: rhs.terms
  | inValues t _ => [t]
  | inSelect t _ filter => t :: filter.tested
  | and a b | or a b => a.tested ++ b.tested
  | not a => a.tested

variable {stored : List Statement} {s : Statement} {e : Expr} {t : Term}

theorem sat_given_iff (name? : Option String) :
    (given name? e).Sat stored s ↔ (∀ name ∈ name?, s.predicate = name) ∧ e.Sat stored s := by
  cases name? with
  | none => simp [given]
  | some name =>
    simp [given, Sat, Term.against, Term.value?, Term.eval, Except.toOption, Scalar.value?,
      CompareOp.holds]

theorem nested_given (name? : Option String) (e : Expr) : (given name? e).nested = e.nested := by
  cases name? <;> rfl

theorem agree_given {name? : Option String} {e' : Expr}
    (hsat : ∀ s ∈ stored, e.Sat stored s ↔
      (∀ name ∈ name?, s.predicate = name) ∧ e'.Sat stored s)
    (hnested : e.nested = e'.nested) : e.Agree stored (given name? e') := by
  constructor
  · intro s hs
    rw [sat_given_iff]
    exact hsat s hs
  · rw [nested_given, hnested]

theorem agree_isIn (stored : List Statement) (t : Term) (set : SetOperand) :
    (t.isIn set).Agree stored (given t.attribute? (t.onObject.isIn set)) := by
  refine agree_given (fun s _ => ?_) (t.nested_isIn t.onObject set)
  simp only [Term.sat_isIn_iff, t.value?_eq_some_iff s]
  constructor
  · rintro ⟨v, hv, ht, hvalue⟩
    exact ⟨ht, v, hv, hvalue⟩
  · rintro ⟨ht, v, hv, hvalue⟩
    exact ⟨v, hv, ht, hvalue⟩

theorem agree_compare (stored : List Statement) (t : Term) (op : CompareOp) (rhs : Scalar) :
    (compare t op rhs).Agree stored (compare t op rhs).onObjects := by
  refine agree_given (fun s _ => ?_) (by rw [nested_given]; rfl)
  rw [sat_given_iff]
  simp only [Sat, t.value?_eq_some_iff s, rhs.value?_eq_some_iff s]
  constructor
  · rintro ⟨a, b, ⟨ht, ha⟩, ⟨hrhs, hb⟩, hop⟩
    exact ⟨ht, hrhs, a, b, ha, hb, hop⟩
  · rintro ⟨ht, hrhs, a, b, ha, hb, hop⟩
    exact ⟨a, b, ⟨ht, ha⟩, ⟨hrhs, hb⟩, hop⟩

theorem agree_onObjects (stored : List Statement) (e : Expr) : e.Agree stored e.onObjects := by
  induction e with
  | everything => exact .refl stored _
  | compare t op rhs => exact agree_compare stored t op rhs
  | inValues t values => exact agree_isIn stored t (.values values)
  | inSelect t projection filter ih =>
    -- The filter is written out first, then the test of the set that the new filter gives.
    exact (ih.inSelect t projection).trans (agree_isIn stored t (.select projection _))
  | and a b iha ihb => exact iha.and ihb
  | or a b iha ihb => exact iha.or ihb
  | not a ih => exact ih.not

theorem tested_given (name? : Option String) (e : Expr) :
    ∀ t ∈ (given name? e).tested, t = .predicate ∨ t ∈ e.tested := by
  cases name? with
  | none => exact fun t ht => .inr ht
  | some name => simp [given, tested, Term.against, Scalar.terms]

theorem attribute?_of_mem_given {name? : Option String}
    (h : ∀ t ∈ e.tested, t.attribute? = none) :
    ∀ t ∈ (given name? e).tested, t.attribute? = none := by
  intro t ht
  rcases tested_given name? e t ht with rfl | ht
  · rfl
  · exact h t ht

theorem attribute?_of_mem_onObjects (e : Expr) :
    ∀ t ∈ e.onObjects.tested, t.attribute? = none := by
  induction e with
  | everything => simp [onObjects, tested]
  | compare t op rhs =>
    refine attribute?_of_mem_given (attribute?_of_mem_given ?_)
    cases rhs <;> simp [tested, Scalar.onObject, Scalar.terms, Term.attribute?_onObject]
  | inValues t values =>
    refine attribute?_of_mem_given ?_
    simp [tested, Term.attribute?_onObject]
  | inSelect t projection filter ih =>
    refine attribute?_of_mem_given ?_
    simpa [tested, Term.attribute?_onObject] using ih
  | and a b iha ihb | or a b iha ihb =>
    intro t ht
    rcases List.mem_append.mp ht with ht | ht
    · exact iha t ht
    · exact ihb t ht
  | not a ih => exact ih

end Expr

namespace Store

/-- A test of an attribute is the same test of the object where the predicate is the name. -/
theorem attributes_write_out (st : Store) :
    (∀ name ws s,
      let named := (Term.attributeOf name).under ws
      let plain := Term.object.under ws
      (∀ op rhs, st.test (.compare named op rhs) s =
        (st.test (.compare plain op rhs) s).map (decide (s.predicate = name) && ·)) ∧
      (∀ set, st.test (named.isIn set) s =
        (st.test (plain.isIn set) s).map (decide (s.predicate = name) && ·)) ∧
      ∀ t op, st.test (.compare t op (.term named)) s =
        (st.test (.compare t op (.term plain)) s).map (decide (s.predicate = name) && ·)) ∧
    ∀ e : Expr, (∀ t ∈ e.onObjects.tested, t.attribute? = none) ∧
      ∀ (β : Type) (p : Projection β),
        (st.select p e.onObjects).outcome = (st.select p e).outcome := by
  constructor
  · intro name ws s named plain
    have hvalue : ∀ v, named.value? s = some v ↔
        s.predicate = name ∧ plain.value? s = some v := Term.value?_under_attributeOf name ws s
    refine ⟨?_, ?_, ?_⟩
    · intro op rhs
      refine test_eq_map_of_sat_iff ?_ rfl
      simp only [Expr.Sat, hvalue, and_assoc, exists_and_left]
    · intro set
      refine test_eq_map_of_sat_iff ?_ (named.nested_isIn plain set)
      simp only [Term.sat_isIn_iff, hvalue, and_left_comm, exists_and_left]
    · intro t op
      refine test_eq_map_of_sat_iff ?_ rfl
      simp only [Expr.Sat, Scalar.value?, hvalue, and_assoc, and_left_comm, exists_and_left]
  · intro e
    refine ⟨e.attribute?_of_mem_onObjects, fun β p => ?_⟩
    exact (outcome_select_of_agree (e.agree_onObjects st.toList) p).symm

theorem largeFamilies_written_out :
    largeFamilies.onObjects =
        .and (Term.predicate.against .eq (.text "my:wife"))
          (.inSelect .subject .subject
            (.and (Term.predicate.against .eq (.text "my:kids"))
              ((Term.parseInt .object).against .gt (.int 5)))) ∧
      (∀ t ∈ largeFamilies.onObjects.tested, t.attribute? = none) ∧
      ((after marriages).select (Term.attributeOf "my:wife").project
        largeFamilies.onObjects).outcome = .ok [.text "Anna"] ∧
      ((after marriages).select (Term.attributeOf "my:kids").project
        largeFamilies.onObjects).outcome = .error ⟨1, .missingAttribute "my:kids"⟩ := by
  obtain ⟨-, hwritten⟩ := attributes_write_out (after marriages)
  obtain ⟨hfree, hselect⟩ := hwritten largeFamilies
  refine ⟨rfl, hfree, ?_, ?_⟩
  · rw [hselect]
    rfl
  · rw [hselect]
    rfl

end Store

end TripleStore
