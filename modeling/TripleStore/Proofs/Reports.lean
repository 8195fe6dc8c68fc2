import TripleStore.Command.Report
import TripleStore.Proofs.FileImports
import TripleStore.Proofs.Imports
import TripleStore.Proofs.Outcome

/-! # What the command prints -/

namespace TripleStore.Command

/-! ## The variables -/

theorem Environment.text?_eq_some_iff {env : Environment} {name text : String} :
    env.text? name = some text ↔ env name = some text.toUTF8 := by
  simp only [text?, Option.bind_eq_bind, Option.bind_eq_some_iff, Text.fromUTF8?_eq_some_iff,
    exists_eq_right]

theorem Environment.text?_of_not_text {env : Environment} {name : String} {value : ByteArray}
    (hvalue : env name = some value) (hno : ∀ text : String, text.toUTF8 ≠ value) :
    env.text? name = none := by
  rw [text?, hvalue]
  exact Text.fromUTF8?_eq_none hno

/-- What a value of the dump variable asks for. One that is no text counts as none. -/
inductive IsDump : Option ByteArray → Bool → Prop where
  | unset : IsDump none true
  | noText {value : ByteArray} (h : ∀ text : String, text.toUTF8 ≠ value) : IsDump (some value) true
  | on {text : String} (h : text = "true" ∨ text = "1") : IsDump (some text.toUTF8) true
  | off {text : String} (h : text = "false" ∨ text = "0") : IsDump (some text.toUTF8) false

theorem readDump_some_eq_ok_iff {text : String} {dump : Bool} :
    readDump (some text) = .ok dump ↔
      (text = "true" ∨ text = "1") ∧ dump = true ∨
        (text = "false" ∨ text = "0") ∧ dump = false := by
  rw [readDump]
  by_cases hon : text = "true" ∨ text = "1"
  · rw [if_pos hon, Except.ok.injEq]
    rcases hon with rfl | rfl <;> simp [eq_comm]
  · rw [if_neg hon]
    by_cases hoff : text = "false" ∨ text = "0"
    · rw [if_pos hoff, Except.ok.injEq]
      simp [hon, hoff, eq_comm]
    · rw [if_neg hoff]
      simp [hon, hoff]

theorem isDump_some_toUTF8 {text : String} {dump : Bool} :
    IsDump (some text.toUTF8) dump ↔ readDump (some text) = .ok dump := by
  rw [readDump_some_eq_ok_iff]
  constructor
  · generalize hvalue : some text.toUTF8 = value
    rintro (_ | h | h | h)
    · cases hvalue
    · exact absurd (Option.some.inj hvalue) (h text)
    · rw [String.toByteArray_inj.mp (Option.some.inj hvalue)]
      exact .inl ⟨h, rfl⟩
    · rw [String.toByteArray_inj.mp (Option.some.inj hvalue)]
      exact .inr ⟨h, rfl⟩
  · rintro (⟨h, rfl⟩ | ⟨h, rfl⟩)
    · exact .on h
    · exact .off h

theorem readDump_text?_eq_ok_iff {env : Environment} {dump : Bool} :
    readDump (env.text? dumpVariable) = .ok dump ↔ IsDump (env dumpVariable) dump := by
  cases hvalue : env dumpVariable with
  | none =>
    have hnone : env.text? dumpVariable = none := by rw [Environment.text?, hvalue]; rfl
    rw [hnone]
    constructor
    · rintro ⟨⟩
      exact .unset
    · rintro ⟨⟩
      rfl
  | some value =>
    by_cases htext : ∃ text : String, text.toUTF8 = value
    · obtain ⟨text, rfl⟩ := htext
      rw [Environment.text?_eq_some_iff.mpr hvalue, isDump_some_toUTF8]
    · have hno : ∀ text : String, text.toUTF8 ≠ value := fun text h => htext ⟨text, h⟩
      rw [Environment.text?_of_not_text hvalue hno]
      constructor
      · rintro ⟨⟩
        exact .noText hno
      · rintro (_ | _ | _ | _)
        · rfl
        · exact absurd rfl (hno _)
        · exact absurd rfl (hno _)

/-! ## Good settings -/

theorem readFile_eq_ok_iff {value : Option String} {file : String} :
    readFile value = .ok file ↔ value = some file ∧ file ≠ "" := by
  cases value with
  | none => simp [readFile]
  | some v =>
    simp only [readFile, Option.some.injEq]
    by_cases hv : v = ""
    · subst hv
      simp [eq_comm]
    · rw [if_neg hv, Except.ok.injEq]
      exact ⟨fun h => ⟨h, h ▸ hv⟩, fun h => h.1⟩

theorem readPredicate_eq_some_iff {value : Option String} {p : String} :
    readPredicate value = some p ↔ value = some p ∧ p ≠ "" := by
  simp [readPredicate, Option.filter_eq_some_iff]

/-- The settings are what the variables ask for. An empty predicate asks for no filter. -/
structure Settings.Asked (settings : Settings) (env : Environment) : Prop where
  file : env fileVariable = some settings.file.toUTF8
  file_ne : settings.file ≠ ""
  predicate : ∀ p, settings.predicate = some p ↔ env predicateVariable = some p.toUTF8 ∧ p ≠ ""
  dump : IsDump (env dumpVariable) settings.dump

theorem Settings.ofEnvironment_eq_ok_iff {env : Environment} {settings : Settings} :
    Settings.ofEnvironment env = .ok settings ↔ settings.Asked env := by
  rw [Settings.ofEnvironment, Settings.read, bind_eq_ok_iff]
  simp only [map_eq_ok_iff, readFile_eq_ok_iff, readDump_text?_eq_ok_iff,
    Environment.text?_eq_some_iff]
  have hpredicate : ∀ p, readPredicate (env.text? predicateVariable) = some p ↔
      env predicateVariable = some p.toUTF8 ∧ p ≠ "" := by
    intro p
    rw [readPredicate_eq_some_iff, Environment.text?_eq_some_iff]
  constructor
  · rintro ⟨file, ⟨hfile, hne⟩, dump, hdump, rfl⟩
    exact ⟨hfile, hne, hpredicate, hdump⟩
  · rintro ⟨hfile, hne, hasked, hdump⟩
    have hread : readPredicate (env.text? predicateVariable) = settings.predicate := by
      apply Option.ext
      intro p
      rw [hpredicate, hasked]
    exact ⟨settings.file, ⟨hfile, hne⟩, settings.dump, hdump, by rw [hread]⟩

/-! ## Good files -/

def IsText (contents : Except ReadError ByteArray) (text : String) : Prop :=
  ∃ bytes, contents = .ok bytes ∧ String.fromUTF8? bytes = some text

theorem isText_toUTF8 (text : String) : IsText (.ok text.toUTF8) text :=
  ⟨_, rfl, Text.fromUTF8?_toUTF8 text⟩

theorem importFile_of_isText {contents : Except ReadError ByteArray} {text : String}
    (h : IsText contents text) (st : Store) : st.importFile contents = st.importText text := by
  obtain ⟨bytes, rfl, htext⟩ := h
  rw [Store.importFile]
  simp only [htext]

theorem exists_isText_of_importFile {contents : Except ReadError ByteArray} {st : Store}
    {count : Nat} (h : (st.importFile contents).answer = .ok count) :
    ∃ text, IsText contents text := by
  cases contents with
  | error e => cases h
  | ok bytes =>
    rw [Store.importFile] at h
    cases htext : String.fromUTF8? bytes with
    | none =>
      simp only [htext] at h
      cases h
    | some text => exact ⟨text, bytes, rfl, htext⟩

structure Loads (env : Environment) (read : String → Except ReadError ByteArray)
    (settings : Settings) (text : String) : Prop where
  asked : settings.Asked env
  isText : IsText (read settings.file) text
  good : ∀ l ∈ Text.lines text.toList, ¬ Table.IsBad l

/-! ## What is printed -/

def printedLines (ss : List Statement) : String := String.join (ss.map fun s => s.line ++ "\n")

theorem dumpText_eq (st : Store) : st.dumpText = printedLines st.toList := by
  simp only [Store.dumpText, Store.dumpLines, printedLines, List.map_map]
  rfl

/-- No projection of a whole statement fails, so the filter never does. -/
theorem outcome_select_withPredicate (st : Store) (p : String) :
    (st.select .wholeStatement (withPredicate p)).outcome =
      .ok (st.toList.filter fun s => s.predicate = p) := by
  have hrows : (st.select .wholeStatement (withPredicate p)).outcome =
      (st.accepted (.compare .predicate .eq (.value (.text p)))).mapM .ok := by
    rw [Store.outcome_select]
    rfl
  rw [hrows, Store.accepted_predicate, mapM_eq_ok_iff]

theorem printed_of_predicate {settings : Settings} {p : String} (hp : settings.predicate = some p)
    (st : Store) (notices : List Notice) :
    let found := st.toList.filter fun s => s.predicate = p
    printed settings st notices =
      { output := printedLines found, notices := notices ++ [.selected found.length p] } := by
  intro found
  simp only [printed, hp, outcome_select_withPredicate]
  rfl

theorem printed_of_no_predicate {settings : Settings} (hp : settings.predicate = none)
    (st : Store) (notices : List Notice) :
    printed settings st notices =
      { output := if settings.dump then printedLines st.toList else "", notices } := by
  simp only [printed, hp, dumpText_eq]

theorem code_printed (settings : Settings) (st : Store) (notices : List Notice) :
    (printed settings st notices).code = 0 := by
  cases hp : settings.predicate with
  | none => rw [printed_of_no_predicate hp]
  | some p => rw [printed_of_predicate hp]

/-! ## The run -/

variable {env : Environment} {read : String → Except ReadError ByteArray}

/-- The statements on the lines of a table, with their places as their ids. -/
def statementsIn (text : String) : List Statement :=
  numbered ((Text.lines text.toList).filterMap Table.statement?)

theorem run_of_loads {settings : Settings} {text : String} (h : Loads env read settings text) :
    let st := (Store.empty.importFile (read settings.file)).store
    st.toList = statementsIn text ∧
      run env read =
        printed settings st [.loaded settings, .imported (statementsIn text).length] := by
  have hgood : ∀ l ∈ Text.lines text.toList, Table.isGood l := Table.forall_isGood_iff.mpr h.good
  obtain ⟨hanswer, hstore⟩ := Store.importText_of_isGood .empty hgood
  have hempty : Store.empty.nextId = 0 := rfl
  rw [hempty, placedFrom_zero, Store.toList_empty, List.nil_append] at hstore
  rw [← Table.length_filterMap_statement? hgood, ← length_numbered] at hanswer
  rw [run, Settings.ofEnvironment_eq_ok_iff.mpr h.asked]
  simp only [loaded, importFile_of_isText h.isText, hanswer]
  exact ⟨hstore, rfl⟩

theorem run_of_no_predicate {settings : Settings} {text : String}
    (h : Loads env read settings text) (hp : settings.predicate = none) :
    run env read =
      { output := if settings.dump then printedLines (statementsIn text) else ""
        notices := [.loaded settings, .imported (statementsIn text).length] } := by
  obtain ⟨hstored, hrun⟩ := run_of_loads h
  rw [hrun, printed_of_no_predicate hp, hstored]

theorem run_of_predicate {settings : Settings} {text p : String}
    (h : Loads env read settings text) (hp : settings.predicate = some p) :
    let found := (statementsIn text).filter fun s => s.predicate = p
    run env read =
      { output := printedLines found
        notices := [.loaded settings, .imported (statementsIn text).length,
          .selected found.length p] } := by
  obtain ⟨hstored, hrun⟩ := run_of_loads h
  rw [hrun, printed_of_predicate hp, hstored]
  rfl

theorem run_of_not_loads (h : ∀ settings text, ¬ Loads env read settings text) :
    ∃ notices, run env read = .failure notices := by
  rw [run]
  cases hasked : Settings.ofEnvironment env with
  | error e => exact ⟨_, rfl⟩
  | ok settings =>
    simp only [loaded]
    cases hanswer : (Store.empty.importFile (read settings.file)).answer with
    | error e => exact ⟨_, rfl⟩
    | ok count =>
      obtain ⟨text, htext⟩ := exists_isText_of_importFile hanswer
      rw [importFile_of_isText htext] at hanswer
      have hgood := Store.importLines_succeeds_iff.mp ⟨count, hanswer⟩
      refine absurd ⟨Settings.ofEnvironment_eq_ok_iff.mp hasked, htext, ?_⟩ (h settings text)
      exact Table.forall_isGood_iff.mp hgood

/-- The command prints all that it was asked for, or it fails and prints nothing. -/
theorem run_prints_all_or_nothing (env : Environment)
    (read : String → Except ReadError ByteArray) :
    let report := run env read
    (report.code = 0 ↔ ∃ settings text, Loads env read settings text) ∧
    (report.code ≠ 0 → report.code = 1 ∧ report.output = "") ∧
    ∀ settings text, Loads env read settings text →
      let stored := statementsIn text
      (Store.empty.importFile (read settings.file)).store.toList = stored ∧
      (settings.predicate = none →
        report =
          { output := if settings.dump then printedLines stored else ""
            notices := [.loaded settings, .imported stored.length] }) ∧
      ∀ p, settings.predicate = some p →
        let found := stored.filter fun s => s.predicate = p
        report =
          { output := printedLines found
            notices :=
              [.loaded settings, .imported stored.length, .selected found.length p] } ∧
        ∀ full, { settings with predicate := none, dump := true }.Asked full →
          (run full read).output = printedLines stored := by
  intro report
  by_cases hloads : ∃ settings text, Loads env read settings text
  · have hcode : report.code = 0 := by
      obtain ⟨settings, text, h⟩ := hloads
      have hrun : report = _ := (run_of_loads h).2
      rw [hrun, code_printed]
    refine ⟨iff_of_true hcode hloads, absurd hcode, ?_⟩
    intro settings text h stored
    refine ⟨(run_of_loads h).1, run_of_no_predicate h, ?_⟩
    intro p hp found
    refine ⟨run_of_predicate h hp, ?_⟩
    intro full hfull
    rw [run_of_no_predicate ⟨hfull, h.isText, h.good⟩ rfl]
    simp only [reduceIte, stored]
  · have hnone : ∀ settings text, ¬ Loads env read settings text :=
      fun settings text h => hloads ⟨settings, text, h⟩
    obtain ⟨notices, hrun⟩ := run_of_not_loads hnone
    have hrun : report = .failure notices := hrun
    rw [hrun]
    refine ⟨iff_of_false (by decide : (1 : UInt32) ≠ 0) hloads, fun _ => ⟨rfl, rfl⟩, ?_⟩
    intro settings text h
    exact absurd h (hnone settings text)

def weddings : String :=
  "# weddings\nresource\tTopi\twife\tAnna\nliteral\t[0]\tyear\t1990\n\n" ++
    "resource\tOlli\twife\tJohanna\n"

theorem not_isBad_weddings : ∀ l ∈ Text.lines weddings.toList, ¬ Table.IsBad l := by decide

def weddingFiles : String → Except ReadError ByteArray
  | "good.tsv" => .ok weddings.toUTF8
  | "cut.tsv" => .ok "literal\ta\tp\to\nliteral\tb".toUTF8
  | _ => .error .notFound

def environment (file : ByteArray) (predicate dump : Option ByteArray) : Environment := fun name =>
  if name = fileVariable then some file
  else if name = predicateVariable then predicate
  else if name = dumpVariable then dump
  else none

theorem weddings_printed :
    let filtering := environment "good.tsv".toUTF8 (some "wife".toUTF8) (some "0".toUTF8)
    let dumping := environment "good.tsv".toUTF8 (some "".toUTF8) none
    let broken := run (environment "cut.tsv".toUTF8 none (some "true".toUTF8)) weddingFiles
    run filtering weddingFiles =
        { output := "0: Topi wife <Anna>\n2: Olli wife <Johanna>\n"
          notices :=
            [.loaded ⟨"good.tsv", some "wife", false⟩, .imported 3, .selected 2 "wife"] } ∧
      (run dumping weddingFiles).output =
        "0: Topi wife <Anna>\n1: [0] year \"1990\"\n2: Olli wife <Johanna>\n" ∧
      broken.code = 1 ∧ broken.output = "" := by
  intro filtering dumping broken
  have hloads : Loads filtering weddingFiles ⟨"good.tsv", some "wife", false⟩ weddings :=
    ⟨Settings.ofEnvironment_eq_ok_iff.mp rfl, isText_toUTF8 weddings, not_isBad_weddings⟩
  have hdumping : Settings.Asked ⟨"good.tsv", none, true⟩ dumping :=
    Settings.ofEnvironment_eq_ok_iff.mp rfl
  obtain ⟨-, -, hprints⟩ := run_prints_all_or_nothing filtering weddingFiles
  obtain ⟨-, -, hfilter⟩ := hprints _ _ hloads
  obtain ⟨hrun, hfull⟩ := hfilter "wife" rfl
  have hcode : broken.code ≠ 0 := by decide
  have hbroken : broken.code = 1 ∧ broken.output = "" := (run_prints_all_or_nothing _ _).2.1 hcode
  exact ⟨hrun, hfull _ hdumping, hbroken⟩

/-- A byte that starts no sequence, and a file name that ends within one. -/
theorem undecodable_values_pass :
    let noText : ByteArray := ⟨#[0xff]⟩
    let cafe : ByteArray := ⟨(Text.bytes "caf" ++ [0xe9]).toArray⟩
    (∀ text : String, text.toUTF8 ≠ noText) ∧
      run (environment "good.tsv".toUTF8 none (some noText)) weddingFiles =
        { output := "0: Topi wife <Anna>\n1: [0] year \"1990\"\n2: Olli wife <Johanna>\n"
          notices := [.loaded ⟨"good.tsv", none, true⟩, .imported 3] } ∧
      (run (environment "good.tsv".toUTF8 none (some "1".toUTF8)) weddingFiles).code = 0 ∧
      ∀ read, run (environment cafe none none) read =
        .failure [.badSettings (.missing fileVariable)] := by
  intro noText cafe
  have hnoText : ∀ text : String, text.toUTF8 ≠ noText := by
    simp only [ne_eq, Text.toUTF8_eq_iff]
    exact (Text.not_text_iff _).mpr ⟨"", [0xff], rfl, .stray (by decide)⟩
  have hcafe : ∀ text : String, text.toUTF8 ≠ cafe := by
    simp only [ne_eq, Text.toUTF8_eq_iff]
    refine (Text.not_text_iff _).mpr ⟨"caf", [0xe9], rfl, .cutShort (by decide) ?_⟩
    rintro ds hds ⟨hasked, -⟩
    obtain rfl := List.prefix_nil.mp hds
    cases hasked
  have hasked : Settings.Asked ⟨"good.tsv", none, true⟩
      (environment "good.tsv".toUTF8 none (some noText)) :=
    ⟨rfl, by decide, by simp [environment, predicateVariable, fileVariable], .noText hnoText⟩
  refine ⟨hnoText, ?_, by rfl, ?_⟩
  · rw [run_of_no_predicate ⟨hasked, isText_toUTF8 weddings, not_isBad_weddings⟩ rfl]
    rfl
  · intro read
    have hunset : (environment cafe none none).text? fileVariable = none :=
      Environment.text?_of_not_text rfl hcafe
    rw [run, Settings.ofEnvironment, Settings.read, hunset]
    rfl

end TripleStore.Command
