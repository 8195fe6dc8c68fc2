import TripleStore.Proofs.Agreement
import TripleStore.Proofs.TextOrder
import TripleStore.Proofs.Typing

/-!
# Comparisons

Values are in a total order within the texts and within the integers, and in none elsewhere. There a
negated comparison is not the opposite one.
-/

namespace TripleStore

/-! ## Values with an order -/

namespace Value

variable {a b c : Value} {o : Ordering}

def Ordered (a b : Value) : Prop :=
  (a.type = .text ∧ b.type = .text) ∨ (a.type = .integer ∧ b.type = .integer)

theorem order?_eq_none_iff : a.order? b = none ↔ ¬ a.Ordered b := by
  cases a <;> cases b <;> simp [order?, Ordered, type]

theorem order?_swap (a b : Value) : b.order? a = (a.order? b).map Ordering.swap := by
  cases a <;> cases b <;> simp only [order?, Option.map_none, Option.map_some]
  all_goals rw [Std.OrientedOrd.eq_swap]

theorem order?_eq_some_eq_iff (h : a.Ordered b) : a.order? b = some .eq ↔ a = b := by
  cases a <;> cases b <;> simp_all [order?, Ordered, type]

theorem order?_lt_trans (hab : a.order? b = some .lt) (hbc : b.order? c = some .lt) :
    a.order? c = some .lt := by
  cases a <;> cases b <;> cases c <;> simp only [order?, reduceCtorEq, Option.some.injEq] at *
  all_goals exact Std.TransCmp.lt_trans hab hbc

end Value

/-! ## Operators -/

namespace CompareOp

def opposite : CompareOp → CompareOp
  | eq => ne
  | ne => eq
  | lt => ge
  | le => gt
  | gt => le
  | ge => lt

def isOrdering : CompareOp → Bool
  | eq | ne => false
  | lt | le | gt | ge => true

theorem accepts_opposite (op : CompareOp) (o : Ordering) :
    op.opposite.accepts o = !op.accepts o := by
  cases op <;> cases o <;> rfl

theorem isOrdering_opposite (op : CompareOp) : op.opposite.isOrdering = op.isOrdering := by
  cases op <;> rfl

variable {op : CompareOp} {a b : Value}

theorem holds_of_order?_eq_some {o : Ordering} (h : a.order? b = some o) (op : CompareOp) :
    op.holds a b = op.accepts o := by
  have hordered : a.Ordered b := by
    by_contra hnone
    rw [Value.order?_eq_none_iff.mpr hnone] at h
    cases h
  have heq : a = b ↔ o = .eq := by
    rw [← Value.order?_eq_some_eq_iff hordered, h, Option.some.injEq]
  cases op with
  | eq => cases o <;> simp [holds, accepts, heq]
  | ne => cases o <;> simp [holds, accepts, heq]
  | lt | le | gt | ge => simp [holds, h]

theorem holds_of_not_ordered (hop : op.isOrdering) (h : ¬ a.Ordered b) : op.holds a b = false := by
  rw [← Value.order?_eq_none_iff] at h
  cases op <;> simp_all [isOrdering, holds]

theorem ordered_of_holds (hop : op.isOrdering) (h : op.holds a b) : a.Ordered b := by
  by_contra hnone
  rw [holds_of_not_ordered hop hnone] at h
  cases h

theorem holds_opposite (h : op.isOrdering → a.Ordered b) :
    op.opposite.holds a b = !op.holds a b := by
  by_cases hop : op.isOrdering
  · cases ho : a.order? b with
    | none => exact absurd (h hop) (Value.order?_eq_none_iff.mp ho)
    | some o =>
      rw [holds_of_order?_eq_some ho, holds_of_order?_eq_some ho, accepts_opposite]
  · cases op <;> simp_all [isOrdering, opposite, holds]

theorem holds_neither_iff :
    (op.holds a b = false ∧ op.opposite.holds a b = false) ↔ op.isOrdering ∧ ¬ a.Ordered b := by
  constructor
  · rintro ⟨hno, hnot⟩
    by_contra h
    rw [holds_opposite (by simpa using h), hno] at hnot
    cases hnot
  · rintro ⟨hop, h⟩
    have hopposite : op.opposite.isOrdering := by rw [isOrdering_opposite, hop]
    exact ⟨holds_of_not_ordered hop h, holds_of_not_ordered hopposite h⟩

theorem not_holds_both : ¬ (op.holds a b ∧ op.opposite.holds a b) := by
  rintro ⟨hop, hopposite⟩
  have h : op.isOrdering → a.Ordered b := fun ho => ordered_of_holds ho hop
  rw [holds_opposite h, hop] at hopposite
  cases hopposite

/-! ## One order on texts, one on integers -/

theorem exists_order? (h : a.Ordered b) : ∃ o, a.order? b = some o := by
  rw [← Option.ne_none_iff_exists', ne_eq, Value.order?_eq_none_iff]
  exact not_not_intro h

def ofOrdering : Ordering → CompareOp
  | .lt => lt
  | .eq => eq
  | .gt => gt

theorem accepts_iff_eq_ofOrdering (o : Ordering) :
    (op ∈ [lt, eq, gt] ∧ op.accepts o) ↔ op = ofOrdering o := by
  cases o <;> cases op <;> decide

theorem existsUnique_holds (h : a.Ordered b) : ∃! op, op ∈ [lt, eq, gt] ∧ op.holds a b := by
  obtain ⟨o, ho⟩ := exists_order? h
  simp only [holds_of_order?_eq_some ho, accepts_iff_eq_ofOrdering]
  exact ⟨ofOrdering o, rfl, fun _ heq => heq⟩

theorem le_holds_iff (h : a.Ordered b) : le.holds a b ↔ lt.holds a b ∨ eq.holds a b := by
  obtain ⟨o, ho⟩ := exists_order? h
  simp only [holds_of_order?_eq_some ho]
  cases o <;> decide

theorem ge_holds_iff (h : a.Ordered b) : ge.holds a b ↔ gt.holds a b ∨ eq.holds a b := by
  obtain ⟨o, ho⟩ := exists_order? h
  simp only [holds_of_order?_eq_some ho]
  cases o <;> decide

theorem holds_iff_eq_ne (h : a.type ≠ b.type) : op.holds a b ↔ op = ne := by
  have hne : a ≠ b := fun heq => h (congrArg Value.type heq)
  have hordered : ¬ a.Ordered b := by
    rintro (⟨ha, hb⟩ | ⟨ha, hb⟩) <;> exact h (ha.trans hb.symm)
  rw [← Value.order?_eq_none_iff] at hordered
  cases op <;> simp [holds, hne, hordered]

theorem lt_holds_eq_gt_holds (a b : Value) : lt.holds a b = gt.holds b a := by
  have hgt : gt.holds b a = (b.order? a).any gt.accepts := rfl
  have hlt : lt.holds a b = (a.order? b).any lt.accepts := rfl
  rw [hgt, hlt, Value.order?_swap a b]
  cases a.order? b with
  | none => rfl
  | some o => cases o <;> rfl

theorem lt_holds_iff : lt.holds a b ↔ a.order? b = some .lt := by
  have hlt : lt.holds a b = (a.order? b).any lt.accepts := rfl
  rw [hlt]
  cases a.order? b with
  | none => decide
  | some o => cases o <;> decide

theorem lt_holds_text_iff (x y : String) : lt.holds (.text x) (.text y) ↔ x < y := by
  rw [lt_holds_iff, Value.order?, Option.some.injEq]
  exact compareOfLessAndEq_eq_lt

theorem lt_holds_int_iff (m n : Int) : lt.holds (.int m) (.int n) ↔ m < n := by
  rw [lt_holds_iff, Value.order?, Option.some.injEq, Int.compare_eq_lt]

end CompareOp

theorem Value.ordered_within_types :
    (∀ a b : Value, a.type ≠ b.type → ∀ op : CompareOp, op.holds a b ↔ op = .ne) ∧
    (∀ a b : Value, a.Ordered b →
      (∃! op, op ∈ [CompareOp.lt, .eq, .gt] ∧ op.holds a b) ∧
      (CompareOp.le.holds a b ↔ CompareOp.lt.holds a b ∨ CompareOp.eq.holds a b) ∧
      (CompareOp.ge.holds a b ↔ CompareOp.gt.holds a b ∨ CompareOp.eq.holds a b)) ∧
    (∀ a b c : Value, CompareOp.lt.holds a b → CompareOp.lt.holds b c → CompareOp.lt.holds a c) ∧
    (∀ a b : Value, CompareOp.lt.holds a b = CompareOp.gt.holds b a) ∧
    (∀ (k k' : ObjectKind) (op : CompareOp), op.isOrdering → ¬ op.holds (.kind k) (.kind k')) ∧
    (∀ m n : Int, CompareOp.lt.holds (.int m) (.int n) ↔ m < n) ∧
    ∀ x y : String,
      (CompareOp.lt.holds (.text x) (.text y) ↔ Text.bytes x < Text.bytes y) ∧
      (CompareOp.lt.holds (.text x) (.text y) ↔ Text.codePoints x < Text.codePoints y) ∧
      (y ≠ "" → CompareOp.lt.holds (.text x) (.text (x ++ y))) := by
  refine ⟨?_, ?_, ?_, CompareOp.lt_holds_eq_gt_holds, ?_, CompareOp.lt_holds_int_iff, ?_⟩
  · intro a b h op
    exact CompareOp.holds_iff_eq_ne h
  · intro a b h
    exact ⟨CompareOp.existsUnique_holds h, CompareOp.le_holds_iff h, CompareOp.ge_holds_iff h⟩
  · intro a b c hab hbc
    rw [CompareOp.lt_holds_iff] at hab hbc ⊢
    exact order?_lt_trans hab hbc
  · intro k k' op hop h
    have hordered : (Value.kind k).Ordered (.kind k') := CompareOp.ordered_of_holds hop h
    simp [Ordered, type] at hordered
  · intro x y
    simp only [CompareOp.lt_holds_text_iff, Text.bytes_lt_iff, Text.codePoints_lt_iff, true_and]
    intro hy
    rw [← Text.codePoints_lt_iff]
    exact Text.codePoints_lt_append x hy

/-- The last two texts are in the other order by units of 16 bits. -/
theorem Value.mixed_values_ordered :
    (Value.text "6").type ≠ (Value.int 6).type ∧
      CompareOp.ne.holds (.text "6") (.int 6) ∧ ¬ CompareOp.le.holds (.text "6") (.int 6) ∧
      (Value.int 6).Ordered (.int 10) ∧
      (CompareOp.le.holds (.int 6) (.int 10) ↔
        CompareOp.lt.holds (.int 6) (.int 10) ∨ CompareOp.eq.holds (.int 6) (.int 10)) ∧
      ¬ CompareOp.le.holds (.kind .literal) (.kind .literal) ∧
      CompareOp.lt.holds (.text "my") (.text "my:wife") ∧
      CompareOp.lt.holds (.text "my") (.text "😀") ∧ Text.bytes "\uffff" < Text.bytes "😀" := by
  obtain ⟨htypes, hordered, htrans, -, hkinds, -, htexts⟩ := Value.ordered_within_types
  have hdiffer : (Value.text "6").type ≠ (Value.int 6).type := by decide
  have hints : (Value.int 6).Ordered (.int 10) := .inr ⟨rfl, rfl⟩
  have hlow : CompareOp.lt.holds (.text "my") (.text "\uffff") := by decide
  have hhigh : CompareOp.lt.holds (.text "\uffff") (.text "😀") := by decide
  refine ⟨hdiffer, (htypes _ _ hdiffer .ne).mpr rfl, ?_, hints, (hordered _ _ hints).2.1,
    hkinds _ _ .le rfl, (htexts "my" ":wife").2.2 (by decide), htrans _ _ _ hlow hhigh,
    (htexts _ _).1.mp hhigh⟩
  intro h
  cases (htypes _ _ hdiffer .le).mp h

/-! ## Comparisons on a statement -/

section Statement

variable {t : Term} {op : CompareOp} {rhs : Scalar} {s : Statement}

theorem Resolved.accepts_compare {a b : Value} (ha : t.value? s = some a)
    (hb : rhs.value? s = some b) (op : CompareOp) :
    (compare t op rhs).accepts s = op.holds a b := by
  rw [accepts, ha, hb]

theorem Resolved.accepts_compare_of_missing (h : t.value? s = none ∨ rhs.value? s = none)
    (op : CompareOp) : (compare t op rhs).accepts s = false := by
  rw [accepts]
  split
  · next ha hb => simp [ha, hb] at h
  · rfl

namespace Store

theorem test_compare (st : Store) (t : Term) (op : CompareOp) (rhs : Scalar) (s : Statement) :
    st.test (.compare t op rhs) s = .ok ((Resolved.compare t op rhs).accepts s) := rfl

theorem test_not (st : Store) (e : Expr) (s : Statement) :
    st.test (.not e) s = (st.test e s).map (!·) := by
  rw [test, outcome_resolve_not, test]
  cases (st.resolve e).outcome <;> rfl

theorem test_eq_of_nested_eq_nil {st : Store} {e : Expr} (h : e.nested = []) (s : Statement) :
    st.test e s = .ok (decide (e.Sat st.toList s)) := by
  rw [test_eq, h]
  rfl

theorem missing_or_values (t : Term) (rhs : Scalar) (s : Statement) :
    (t.value? s = none ∨ rhs.value? s = none) ∨
      ∃ a b, t.value? s = some a ∧ rhs.value? s = some b := by
  cases t.value? s <;> cases rhs.value? s <;> simp

theorem opposite_tests (st : Store) (t : Term) (op : CompareOp) (rhs : Scalar) (s : Statement) :
    ¬ (st.test (.compare t op rhs) s = .ok true ∧
      st.test (.compare t op.opposite rhs) s = .ok true) ∧
    ((st.test (.compare t op rhs) s = .ok false ∧
        st.test (.compare t op.opposite rhs) s = .ok false) ↔
      (t.value? s = none ∨ rhs.value? s = none) ∨
        op.isOrdering ∧ ∃ a b, t.value? s = some a ∧ rhs.value? s = some b ∧ ¬ a.Ordered b) := by
  simp only [test_compare, Except.ok.injEq]
  rcases missing_or_values t rhs s with h | ⟨a, b, ha, hb⟩
  · rw [Resolved.accepts_compare_of_missing h, Resolved.accepts_compare_of_missing h]
    simp [h]
  · rw [Resolved.accepts_compare ha hb, Resolved.accepts_compare ha hb,
      CompareOp.holds_neither_iff]
    refine ⟨CompareOp.not_holds_both, ?_⟩
    simp [ha, hb]

theorem test_not_eq_ne_test_ne_iff (st : Store) (t : Term) (rhs : Scalar) (s : Statement) :
    st.test (.not (.compare t .eq rhs)) s ≠ st.test (.compare t .ne rhs) s ↔
      t.value? s = none ∨ rhs.value? s = none := by
  rw [test_not, test_compare, test_compare]
  rcases missing_or_values t rhs s with h | ⟨a, b, ha, hb⟩
  · rw [Resolved.accepts_compare_of_missing h, Resolved.accepts_compare_of_missing h]
    simp [h, Except.map]
  · rw [Resolved.accepts_compare ha hb, Resolved.accepts_compare ha hb]
    simp [ha, hb, Except.map, CompareOp.holds]

theorem test_notEquals_singleton_iff (st : Store) (t : Term) (v : Value) (s : Statement) :
    st.test (t.notEquals (.set (.values [v]))) s = .ok true ↔
      st.test (t.notEquals (.scalar (.value v))) s = .ok true ∨ t.value? s = none := by
  rw [test_eq_of_nested_eq_nil rfl, test_eq_of_nested_eq_nil rfl]
  simp only [Except.ok.injEq, decide_eq_true_eq]
  simp only [Term.notEquals, Term.notIn, Term.isIn, Expr.Sat, Scalar.value?]
  cases t.value? s with
  | none => simp
  | some a => simp [CompareOp.holds]

/-- Opposite comparisons are complements only where both sides have values that compare. -/
theorem opposites_leave_a_gap (st : Store) (t : Term) (s : Statement) :
    (∀ rhs : Scalar,
      (∀ op : CompareOp,
        ¬ (st.test (.compare t op rhs) s = .ok true ∧
          st.test (.compare t op.opposite rhs) s = .ok true) ∧
        ((st.test (.compare t op rhs) s = .ok false ∧
            st.test (.compare t op.opposite rhs) s = .ok false) ↔
          (t.value? s = none ∨ rhs.value? s = none) ∨
            op.isOrdering ∧ ∃ a b, t.value? s = some a ∧ rhs.value? s = some b ∧
              ¬ a.Ordered b)) ∧
      (st.test (.not (.compare t .eq rhs)) s ≠ st.test (.compare t .ne rhs) s ↔
        t.value? s = none ∨ rhs.value? s = none)) ∧
    (∀ set, t.equals (.set set) = t.isIn set ∧ t.notEquals (.set set) = t.notIn set ∧
      st.test (t.notIn set) s = (st.test (t.isIn set) s).map (!·)) ∧
    ∀ v, st.test (t.notEquals (.set (.values [v]))) s = .ok true ↔
      st.test (t.notEquals (.scalar (.value v))) s = .ok true ∨ t.value? s = none := by
  refine ⟨?_, ?_, fun v => test_notEquals_singleton_iff st t v s⟩
  · intro rhs
    exact ⟨fun op => opposite_tests st t op rhs s, test_not_eq_ne_test_ne_iff st t rhs s⟩
  · intro set
    exact ⟨rfl, rfl, test_not st _ s⟩

def objectNumber : Term := .parseInt .object

def kidsOfTopi : Statement := ⟨.name "Topi", "my:kids", some (.literal "6"), 0⟩

def wifeOfTopi : Statement := ⟨.name "Topi", "my:wife", some (.resource (.name "Anna")), 1⟩

/-- The wife is no integer, and the last set cannot be had. -/
theorem wife_in_the_gap :
    let st := after marriages
    let married : SetOperand := .select (.attributeOf "my:wife") .everything
    (st.test (objectNumber.against .gt (.int 5)) kidsOfTopi = .ok true ∧
      ¬ (st.test (objectNumber.against .gt (.int 5)) kidsOfTopi = .ok true ∧
        st.test (objectNumber.against .le (.int 5)) kidsOfTopi = .ok true)) ∧
    (objectNumber.value? wifeOfTopi = none ∧
      st.test (objectNumber.against .gt (.int 5)) wifeOfTopi = .ok false ∧
      st.test (objectNumber.against .le (.int 5)) wifeOfTopi = .ok false) ∧
    (st.test (objectNumber.notEquals (.scalar (.value (.int 5)))) wifeOfTopi = .ok false ∧
      st.test (objectNumber.notEquals (.set (.values [.int 5]))) wifeOfTopi = .ok true) ∧
    st.test (objectNumber.notIn married) wifeOfTopi =
      .error ⟨0, .missingAttribute "my:wife"⟩ := by
  intro st married
  obtain ⟨hkids, -, -⟩ := opposites_leave_a_gap st objectNumber kidsOfTopi
  obtain ⟨hwife, hsets, hsingle⟩ := opposites_leave_a_gap st objectNumber wifeOfTopi
  obtain ⟨hnever, -⟩ := (hkids (.value (.int 5))).1 .gt
  have hmissing : objectNumber.value? wifeOfTopi = none := rfl
  have hneither (op : CompareOp) := ((hwife (.value (.int 5))).1 op).2.mpr (.inl (.inl hmissing))
  refine ⟨⟨rfl, hnever⟩, ⟨hmissing, hneither .gt⟩, ⟨(hneither .ne).1, ?_⟩, ?_⟩
  · exact (hsingle (.int 5)).mpr (.inr hmissing)
  · exact (hsets married).2.2

end Store

end Statement

end TripleStore
