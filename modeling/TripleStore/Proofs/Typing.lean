import TripleStore.Proofs.Meaning

/-! # Types of terms -/

namespace TripleStore

/-! ## Types of values -/

inductive ValueType where
  | text
  | integer
  | kind
  deriving DecidableEq, Repr, Inhabited

namespace ValueType

def name : ValueType → String
  | text => "text"
  | integer => "integer"
  | kind => "kind"

def Content : ValueType → Type
  | text => String
  | integer => Int
  | kind => ObjectKind

instance : (ty : ValueType) → FromValue ty.Content
  | text => inferInstanceAs (FromValue String)
  | integer => inferInstanceAs (FromValue Int)
  | kind => inferInstanceAs (FromValue ObjectKind)

theorem typeName_content (ty : ValueType) : FromValue.typeName ty.Content = ty.name := by
  cases ty <;> rfl

end ValueType

namespace Value

def type : Value → ValueType
  | text _ => .text
  | int _ => .integer
  | kind _ => .kind

theorem typeName_eq (v : Value) : v.typeName = v.type.name := by
  cases v <;> rfl

theorem ofValue?_eq_none {v : Value} {ty : ValueType} (h : v.type ≠ ty) :
    (FromValue.ofValue? v : Option ty.Content) = none := by
  cases v <;> cases ty <;> first | rfl | exact absurd rfl h

end Value

/-! ## Conversions -/

inductive Conversion where
  | parseInt
  | reifiedId
  deriving DecidableEq, Repr, Inhabited

namespace Conversion

def apply : Conversion → Term → Term
  | parseInt, t => .parseInt t
  | reifiedId, t => .reifiedId t

def run : Conversion → Value → Except TermError Value
  | parseInt => Value.readInt
  | reifiedId => Value.readRef

/-- Integers pass through a reading of integers, but they refer to nothing. -/
def type? : Conversion → ValueType → Option ValueType
  | parseInt, .text | parseInt, .integer | reifiedId, .text => some .integer
  | _, _ => none

theorem run_cases (c : Conversion) (u : Value) :
    (c.type? u.type = some .integer ∧ ∃ n, c.run u = .ok (.int n)) ∨
    (c = .parseInt ∧ ∃ input, u = .text input ∧ Decimal.int? input.toList = none ∧
      c.run u = .error (.conversion input "integer")) ∨
    (c.type? u.type = none ∧ c.run u = .error (.typeMismatch "text" u.type.name)) := by
  cases u with
  | text input =>
    cases c with
    | parseInt =>
      cases h : Decimal.int? input.toList with
      | none => exact .inr (.inl ⟨rfl, input, rfl, h, by simp only [run, Value.readInt, h]⟩)
      | some n => exact .inl ⟨rfl, n, by simp only [run, Value.readInt, h]⟩
    | reifiedId =>
      cases h : Resource.refOf? input with
      | none => exact .inl ⟨rfl, notReified, by simp only [run, Value.readRef, h]⟩
      | some id => exact .inl ⟨rfl, id, by simp only [run, Value.readRef, h]⟩
  | int n =>
    cases c with
    | parseInt => exact .inl ⟨rfl, n, rfl⟩
    | reifiedId => exact .inr (.inr ⟨rfl, rfl⟩)
  | kind k => cases c <;> exact .inr (.inr ⟨rfl, rfl⟩)

variable {c : Conversion} {u v : Value}

theorem eq_integer_of_type? {ty ty' : ValueType} (h : c.type? ty = some ty') : ty' = .integer := by
  cases c <;> cases ty <;> simp_all [type?]

theorem type?_of_run (h : c.run u = .ok v) : c.type? u.type = some v.type := by
  rcases run_cases c u with ⟨hty, n, hrun⟩ | ⟨-, input, -, -, hrun⟩ | ⟨-, hrun⟩ <;> rw [hrun] at h
  · cases h
    exact hty
  all_goals cases h

theorem run_ne_typeMismatch {ty : ValueType} (h : c.type? u.type = some ty)
    (expected found : String) : c.run u ≠ .error (.typeMismatch expected found) := by
  rcases run_cases c u with ⟨-, n, hrun⟩ | ⟨-, input, -, -, hrun⟩ | ⟨hty, -⟩
  · simp [hrun]
  · simp [hrun]
  · simp [hty] at h

theorem run_ne_missingAttribute (c : Conversion) (u : Value) (name : String) :
    c.run u ≠ .error (.missingAttribute name) := by
  rcases run_cases c u with ⟨-, n, hrun⟩ | ⟨-, input, -, -, hrun⟩ | ⟨-, hrun⟩ <;> simp [hrun]

theorem run_eq_conversion_iff {input target : String} :
    c.run u = .error (.conversion input target) ↔
      c = .parseInt ∧ u = .text input ∧ Decimal.int? input.toList = none ∧ target = "integer" := by
  constructor
  · intro h
    rcases run_cases c u with ⟨-, n, hrun⟩ | ⟨hc, s, hu, hs, hrun⟩ | ⟨-, hrun⟩ <;> rw [hrun] at h
    · cases h
    · cases h
      exact ⟨hc, hu, hs, rfl⟩
    · cases h
  · rintro ⟨rfl, rfl, hinput, rfl⟩
    simp only [run, Value.readInt, hinput]

end Conversion

/-! ## Types of terms -/

namespace Term

def selector : Term → Term
  | parseInt inner | reifiedId inner => inner.selector
  | t => t

/-- The conversions around the selector, the outermost first. -/
def conversions : Term → List Conversion
  | parseInt inner => .parseInt :: inner.conversions
  | reifiedId inner => .reifiedId :: inner.conversions
  | _ => []

def type? : Term → Option ValueType
  | subject | predicate | object | attributeOf _ => some .text
  | statementId => some .integer
  | objectKind => some .kind
  | parseInt inner => inner.type?.bind Conversion.parseInt.type?
  | reifiedId inner => inner.type?.bind Conversion.reifiedId.type?

variable {t : Term} {s : Statement}

theorem selector_apply (c : Conversion) (t : Term) : (c.apply t).selector = t.selector := by
  cases c <;> rfl

theorem conversions_apply (c : Conversion) (t : Term) :
    (c.apply t).conversions = c :: t.conversions := by
  cases c <;> rfl

theorem type?_apply (c : Conversion) (t : Term) : (c.apply t).type? = t.type?.bind c.type? := by
  cases c <;> rfl

theorem eval_apply (c : Conversion) (t : Term) (s : Statement) :
    (c.apply t).eval s = t.eval s >>= c.run := by
  cases c <;> rfl

/-- A term is a selector, or it is another term with one more conversion around it. -/
@[elab_as_elim]
theorem byConversions {motive : Term → Prop} (selector : ∀ t, t.conversions = [] → motive t)
    (convert : ∀ (c : Conversion) t, motive t → motive (c.apply t)) (t : Term) : motive t := by
  induction t with
  | parseInt inner ih => exact convert .parseInt inner ih
  | reifiedId inner ih => exact convert .reifiedId inner ih
  | subject | predicate | object | statementId | objectKind | attributeOf =>
    exact selector _ rfl

theorem eval_of_selector (h : t.conversions = []) (s : Statement) :
    t.selector = t ∧ ((∃ v, t.eval s = .ok v ∧ t.type? = some v.type) ∨
      ∃ name, t = attributeOf name ∧ s.predicate ≠ name ∧
        t.eval s = .error (.missingAttribute name)) := by
  cases t with
  | parseInt inner | reifiedId inner => simp [conversions] at h
  | attributeOf name =>
    refine ⟨rfl, ?_⟩
    by_cases hname : s.predicate = name
    · exact .inl ⟨.text s.objectText, by simp [eval, hname], rfl⟩
    · exact .inr ⟨name, rfl, hname, by simp [eval, hname]⟩
  | subject | predicate | object | statementId | objectKind => exact ⟨rfl, .inl ⟨_, rfl, rfl⟩⟩

theorem type?_of_eval {v : Value} (h : t.eval s = .ok v) : t.type? = some v.type := by
  induction t using byConversions generalizing v with
  | selector t ht =>
    rcases (eval_of_selector ht s).2 with ⟨u, hu, hty⟩ | ⟨name, -, -, herr⟩
    · rw [hu] at h
      cases h
      exact hty
    · rw [herr] at h
      cases h
  | convert c t ih =>
    rw [eval_apply, bind_eq_ok_iff] at h
    obtain ⟨u, hu, hrun⟩ := h
    rw [type?_apply, ih hu]
    exact Conversion.type?_of_run hrun

theorem exists_error_of_type?_eq_none (h : t.type? = none) (s : Statement) :
    ∃ cause, t.eval s = .error cause := by
  cases ht : t.eval s with
  | error cause => exact ⟨cause, rfl⟩
  | ok v =>
    rw [type?_of_eval ht] at h
    cases h

theorem eval_ne_typeMismatch {ty : ValueType} (h : t.type? = some ty) (s : Statement)
    (expected found : String) : t.eval s ≠ .error (.typeMismatch expected found) := by
  induction t using byConversions generalizing ty with
  | selector t ht =>
    rcases (eval_of_selector ht s).2 with ⟨u, hu, -⟩ | ⟨name, -, -, herr⟩
    · simp [hu]
    · simp [herr]
  | convert c t ih =>
    rw [type?_apply] at h
    obtain ⟨inner, hinner, hty⟩ := Option.bind_eq_some_iff.mp h
    rw [eval_apply, ne_eq, bind_eq_error_iff]
    rintro (herr | ⟨u, hu, hrun⟩)
    · exact ih hinner herr
    · rw [type?_of_eval hu] at hinner
      cases hinner
      exact Conversion.run_ne_typeMismatch hty expected found hrun

theorem eval_eq_missingAttribute_iff {name : String} :
    t.eval s = .error (.missingAttribute name) ↔
      t.selector = attributeOf name ∧ s.predicate ≠ name := by
  induction t using byConversions with
  | selector t ht =>
    obtain ⟨hselector, ⟨u, hu, -⟩ | ⟨name', rfl, hname, herr⟩⟩ := eval_of_selector ht s
    · rw [hu, hselector]
      refine ⟨nofun, ?_⟩
      rintro ⟨rfl, hname⟩
      simp [eval, hname] at hu
    · rw [herr]
      simp only [selector, Except.error.injEq, TermError.missingAttribute.injEq,
        attributeOf.injEq]
      exact ⟨fun h => ⟨h, h ▸ hname⟩, fun h => h.1⟩
  | convert c t ih =>
    rw [eval_apply, selector_apply, bind_eq_error_iff, ih]
    simp [Conversion.run_ne_missingAttribute]

theorem eq_integer_of_conversions (hc : t.conversions ≠ []) {ty : ValueType}
    (h : t.type? = some ty) : ty = .integer := by
  cases t using byConversions with
  | selector t ht => exact absurd ht hc
  | convert c t =>
    rw [type?_apply] at h
    obtain ⟨inner, -, hty⟩ := Option.bind_eq_some_iff.mp h
    exact Conversion.eq_integer_of_type? hty

theorem eval_eq_conversion_iff {input target : String} :
    t.eval s = .error (.conversion input target) ↔
      t.conversions.getLast? = some .parseInt ∧ t.selector.eval s = .ok (.text input) ∧
        Decimal.int? input.toList = none ∧ target = "integer" := by
  induction t using byConversions with
  | selector t ht =>
    rcases (eval_of_selector ht s).2 with ⟨u, hu, -⟩ | ⟨name, -, -, herr⟩
    · simp [hu, ht]
    · simp [herr, ht]
  | convert c t ih =>
    rw [eval_apply, selector_apply, conversions_apply, bind_eq_error_iff, ih]
    simp only [Conversion.run_eq_conversion_iff]
    -- Only the innermost conversion meets the text of the selector; the others meet an integer.
    by_cases ht : t.conversions = []
    · simp only [(eval_of_selector ht s).1, ht, List.getLast?_nil, List.getLast?_singleton,
        reduceCtorEq, false_and, false_or, Option.some.injEq]
      constructor
      · rintro ⟨u, hu, hc, rfl, hinput⟩
        exact ⟨hc, hu, hinput⟩
      · rintro ⟨hc, hu, hinput⟩
        exact ⟨_, hu, hc, rfl, hinput⟩
    · have hvalue : ¬ ∃ u, t.eval s = .ok u ∧ c = .parseInt ∧ u = .text input ∧
          Decimal.int? input.toList = none ∧ target = "integer" := by
        rintro ⟨u, hu, -, rfl, -⟩
        cases eq_integer_of_conversions ht (type?_of_eval hu)
      rw [or_iff_left hvalue, List.getLast?_cons_of_ne_nil ht]

/-! ## Terms taken as a type -/

theorem typed_of_type?_ne {ty want : ValueType} (hty : t.type? = some ty) (hne : ty ≠ want)
    (s : Statement) :
    ∃ cause, t.typed want.Content s = .error ⟨s.id, cause⟩ ∧
      (∀ own, t.eval s = .error own → cause = own) ∧
      ∀ v, t.eval s = .ok v → cause = .typeMismatch want.name ty.name := by
  cases ht : t.eval s with
  | error own =>
    refine ⟨own, by simp [typed, project, ht, bind, Except.bind], ?_, nofun⟩
    intro own' h
    exact Except.error.inj h
  | ok v =>
    rw [type?_of_eval ht] at hty
    obtain rfl := Option.some.inj hty
    refine ⟨.typeMismatch want.name v.type.name, ?_, nofun, fun _ _ => rfl⟩
    simp [typed, project, ht, bind, Except.bind, Value.ofValue?_eq_none hne,
      ValueType.typeName_content, Value.typeName_eq]

end Term

namespace Store

variable {β : Type} {st : Store} {e : Expr} {r : Resolved} {t : Term} {ty want : ValueType}

theorem outcome_select_typed (hr : (st.resolve e).outcome = .ok r) (hty : t.type? = some ty)
    (hne : ty ≠ want) :
    (e.matchesIn st.toList = [] →
      (st.select (t.typed want.Content) e).outcome = .ok []) ∧
    ∀ s rest, e.matchesIn st.toList = s :: rest →
      ∃ cause, (st.select (t.typed want.Content) e).outcome = .error ⟨s.id, cause⟩ ∧
        (∀ own, t.eval s = .error own → cause = own) ∧
        ∀ v, t.eval s = .ok v → cause = .typeMismatch want.name ty.name := by
  rw [outcome_select_of_resolve hr]
  constructor
  · intro h
    rw [h]
    rfl
  · intro s rest h
    obtain ⟨cause, herr, hcause⟩ := t.typed_of_type?_ne hty hne s
    refine ⟨cause, ?_, hcause⟩
    rw [h, List.mapM_cons, herr]
    rfl

/-- The type of a term decides what it can give, and the innermost cause is the one reported. -/
theorem terms_keep_their_types (t : Term) :
    (∀ s v, t.eval s = .ok v → t.type? = some v.type) ∧
    (t.type? = none → ∀ s, ∃ cause, t.eval s = .error cause) ∧
    (∀ ty, t.type? = some ty →
      ∀ s expected found, t.eval s ≠ .error (.typeMismatch expected found)) ∧
    (∀ s name, t.eval s = .error (.missingAttribute name) ↔
      t.selector = .attributeOf name ∧ s.predicate ≠ name) ∧
    (∀ s input target, t.eval s = .error (.conversion input target) ↔
      t.conversions.getLast? = some .parseInt ∧ t.selector.eval s = .ok (.text input) ∧
        Decimal.int? input.toList = none ∧ target = "integer") ∧
    ∀ (st : Store) e r, (st.resolve e).outcome = .ok r →
      ∀ ty want : ValueType, t.type? = some ty → ty ≠ want →
        (e.matchesIn st.toList = [] → (st.select (t.typed want.Content) e).outcome = .ok []) ∧
        ∀ s rest, e.matchesIn st.toList = s :: rest →
          ∃ cause, (st.select (t.typed want.Content) e).outcome = .error ⟨s.id, cause⟩ ∧
            (∀ own, t.eval s = .error own → cause = own) ∧
            ∀ v, t.eval s = .ok v → cause = .typeMismatch want.name ty.name :=
  ⟨fun _ _ => Term.type?_of_eval, Term.exists_error_of_type?_eq_none,
    fun _ => Term.eval_ne_typeMismatch, fun _ _ => Term.eval_eq_missingAttribute_iff,
    fun _ _ _ => Term.eval_eq_conversion_iff,
    fun _ _ _ hr _ _ hty hne => outcome_select_typed hr hty hne⟩

def referredNumber : Term := .parseInt (.reifiedId (.parseInt .object))

def kids : Term := .parseInt (.attributeOf "my:kids")

theorem kids_typed :
    referredNumber.type? = none ∧ kids.type? = some .integer ∧
      (∃ cause, referredNumber.eval ⟨.name "Topi", "my:kids", some (.literal "6"), 0⟩ =
        .error cause) ∧
      referredNumber.eval ⟨.name "Topi", "my:title", some (.literal "CTO"), 1⟩ =
        .error (.conversion "CTO" "integer") ∧
      kids.eval ⟨.name "Topi", "my:title", some (.literal "CTO"), 1⟩ =
        .error (.missingAttribute "my:kids") ∧
      ((after marriages).select (kids.typed String) .everything).outcome =
        .error ⟨0, .typeMismatch "text" "integer"⟩ ∧
      ((after marriages).select (kids.typed String)
        (Term.predicate.against .eq (.text "my:wife"))).outcome =
        .error ⟨1, .missingAttribute "my:kids"⟩ ∧
      ((after marriages).select (kids.typed ObjectKind)
        (Term.predicate.against .eq (.text "my:title"))).outcome = .ok [] := by
  obtain ⟨-, hnone, -, -, hconversion, -⟩ := terms_keep_their_types referredNumber
  obtain ⟨-, -, -, hmissing, -, hselect⟩ := terms_keep_their_types kids
  refine ⟨rfl, rfl, hnone rfl _, (hconversion _ _ _).mpr ⟨rfl, rfl, by decide, rfl⟩,
    (hmissing _ _).mpr ⟨rfl, by decide⟩, ?_, ?_, ?_⟩
  · obtain ⟨cause, herr, -, hvalue⟩ :=
      (hselect (after marriages) .everything _ rfl .integer .text rfl (by decide)).2 _ _ rfl
    rw [hvalue (.int 6) rfl] at herr
    exact herr
  · obtain ⟨cause, herr, hown, -⟩ :=
      (hselect (after marriages) (Term.predicate.against .eq (.text "my:wife")) _ rfl
        .integer .text rfl (by decide)).2 _ _ rfl
    rw [hown (.missingAttribute "my:kids") rfl] at herr
    exact herr
  · exact (hselect (after marriages) (Term.predicate.against .eq (.text "my:title")) _ rfl
      .integer .kind rfl (by decide)).1 rfl

end Store

end TripleStore
