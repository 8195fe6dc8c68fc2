import TripleStore.Proofs.Written
import TripleStore.Table.Line
import Mathlib.Data.List.DropRight

/-! # The lines of a table -/

namespace TripleStore

namespace Text

/-! ## What is cut off -/

/-- The body is the text without the characters at its end that have the property. -/
structure CutsTo (p : Char → Bool) (cs body : List Char) : Prop where
  text : ∃ rest, cs = body ++ rest ∧ ∀ c ∈ rest, p c
  last : ∀ c, body.getLast? = some c → ¬ p c

/-- The word is the text without the blanks around it. -/
structure TrimsTo (cs word : List Char) : Prop where
  text : ∃ front back,
    cs = front ++ (word ++ back) ∧ (∀ c ∈ front, isBlank c) ∧ ∀ c ∈ back, isBlank c
  first : ∀ c, word.head? = some c → ¬ isBlank c
  last : ∀ c, word.getLast? = some c → ¬ isBlank c

variable {p : Char → Bool} {cs body rest word : List Char}

theorem dropTrailing_eq_rdropWhile (p : Char → Bool) (cs : List Char) :
    dropTrailing p cs = cs.rdropWhile p := rfl

theorem dropTrailing_append (h : ∀ c ∈ rest, p c) :
    dropTrailing p (body ++ rest) = dropTrailing p body := by
  unfold dropTrailing
  rw [List.reverse_append,
    List.dropWhile_append_of_pos fun c hc => h c (List.mem_reverse.mp hc)]

theorem dropTrailing_eq_iff : dropTrailing p cs = body ↔ CutsTo p cs body := by
  rw [dropTrailing_eq_rdropWhile]
  constructor
  · rintro rfl
    refine ⟨⟨cs.rtakeWhile p, List.rdropWhile_append_rtakeWhile.symm,
      fun _ => List.mem_rtakeWhile_imp⟩, ?_⟩
    intro c hc
    have hne : cs.rdropWhile p ≠ [] := List.ne_nil_of_mem (List.mem_of_getLast? hc)
    obtain rfl := Option.some.inj ((List.getLast?_eq_some_getLast hne).symm.trans hc)
    exact List.rdropWhile_last_not p cs hne
  · rintro ⟨⟨rest, rfl, hrest⟩, hlast⟩
    rw [← dropTrailing_eq_rdropWhile, dropTrailing_append hrest, dropTrailing_eq_rdropWhile,
      List.rdropWhile_eq_self_iff]
    exact fun hne => hlast _ (List.getLast?_eq_some_getLast hne)

theorem head?_dropWhile_not {c : Char} (h : (cs.dropWhile p).head? = some c) : ¬ p c := by
  have hnot := List.head?_dropWhile_not p cs
  rw [h] at hnot
  exact Bool.eq_false_iff.mp hnot

theorem trim_eq_iff : trim cs = word ↔ TrimsTo cs word := by
  unfold trim
  rw [dropTrailing_eq_iff]
  constructor
  · rintro ⟨⟨back, htext, hback⟩, hlast⟩
    refine ⟨⟨cs.takeWhile isBlank, back, ?_, fun _ => List.mem_takeWhile_imp, hback⟩, ?_, hlast⟩
    · rw [← htext, List.takeWhile_append_dropWhile]
    · intro c hc
      have hhead : (cs.dropWhile isBlank).head? = some c := by
        rw [htext, List.head?_append, hc]
        rfl
      exact head?_dropWhile_not hhead
  · rintro ⟨⟨front, back, rfl, hfront, hback⟩, hfirst, hlast⟩
    rw [List.dropWhile_append_of_pos hfront]
    refine ⟨?_, hlast⟩
    cases word with
    | nil => exact ⟨[], by rw [List.nil_append, List.dropWhile_eq_nil_iff.mpr hback]; rfl, nofun⟩
    | cons c word =>
      rw [List.cons_append, List.dropWhile_cons_of_neg (hfirst c rfl)]
      exact ⟨back, rfl, hback⟩

end Text

namespace Statement

variable {subject : Resource} {predicate object : String} {kind : ObjectKind}

theorem subjectText_new : (new subject predicate object kind).subjectText = subject.text := rfl

theorem kind_new : (new subject predicate object kind).kind = kind := by
  cases kind <;> rfl

theorem objectText_new (hkind : kind ≠ .invalid) :
    (new subject predicate object kind).objectText = object := by
  cases kind with
  | invalid => exact absurd rfl hkind
  | literal => rfl
  | resource =>
    exact (congrArg Resource.text (Resource.ofOwned_eq_parse object)).trans
      (Resource.text_parse object)

end Statement

namespace Table

open Text

variable {line body k subject predicate object word : List Char}

/-! ## Skipped lines -/

def IsLayout (body : List Char) : Prop :=
  (∀ c ∈ body, isBlank c) ∨ ∃ front rest, body = front ++ '#' :: rest ∧ ∀ c ∈ front, isBlank c

theorem isSkipped_iff : isSkipped body ↔ IsLayout body := by
  unfold isSkipped IsLayout
  constructor
  · intro h
    split at h
    · rename_i hblank
      exact .inl (List.dropWhile_eq_nil_iff.mp hblank)
    · rename_i c rest hbody
      obtain rfl := eq_of_beq h
      refine .inr ⟨body.takeWhile isBlank, rest, ?_, fun _ => List.mem_takeWhile_imp⟩
      rw [← hbody, List.takeWhile_append_dropWhile]
  · rintro (hblank | ⟨front, rest, rfl, hfront⟩)
    · rw [List.dropWhile_eq_nil_iff.mpr hblank]
    · rw [List.dropWhile_append_of_pos hfront, List.dropWhile_cons_of_neg (by decide)]
      rfl

/-! ## Fields -/

/-- The body has these fields with tabs between them. -/
structure Row (body k subject predicate object : List Char) : Prop where
  text : body = k ++ '\t' :: (subject ++ '\t' :: (predicate ++ '\t' :: object))
  no_tab : ∀ field ∈ [k, subject, predicate, object], '\t' ∉ field

theorem notMem_of_mem_splitOn {sep : Char} {cs field : List Char} (h : field ∈ cs.splitOn sep) :
    sep ∉ field := by
  induction cs generalizing field with
  | nil =>
    rw [List.splitOn_nil, List.mem_singleton] at h
    exact h ▸ List.not_mem_nil
  | cons c cs ih =>
    rw [List.splitOn_cons_eq_if_modifyHead] at h
    split at h
    · rcases List.mem_cons.mp h with rfl | h
      · exact List.not_mem_nil
      · exact ih h
    · -- The character goes into the first piece, and the other pieces stay.
      rename_i hc
      obtain ⟨first, others, hsplit⟩ := List.exists_cons_of_ne_nil (List.splitOn_ne_nil sep cs)
      rw [hsplit] at h ih
      rcases List.mem_cons.mp h with rfl | h
      · rw [List.mem_cons, not_or]
        exact ⟨fun heq => hc (beq_of_eq heq.symm), ih List.mem_cons_self⟩
      · exact ih (List.mem_cons_of_mem _ h)

theorem length_splitOn (sep : Char) (cs : List Char) :
    (cs.splitOn sep).length = cs.count sep + 1 := by
  induction cs with
  | nil => rfl
  | cons c cs ih =>
    rw [List.splitOn_cons_eq_if_modifyHead, List.count_cons]
    split
    · rw [List.length_cons, ih]
    · rw [List.length_modifyHead, ih]

theorem splitOn_eq_iff_row :
    body.splitOn '\t' = [k, subject, predicate, object] ↔ Row body k subject predicate object := by
  have htext : ['\t'].intercalate [k, subject, predicate, object] =
      k ++ '\t' :: (subject ++ '\t' :: (predicate ++ '\t' :: object)) := by
    simp [List.intercalate]
  constructor
  · intro h
    refine ⟨?_, fun field hfield => notMem_of_mem_splitOn (h ▸ hfield)⟩
    rw [← htext, ← h, List.intercalate_splitOn]
  · rintro ⟨rfl, hno⟩
    rw [← htext]
    exact List.splitOn_intercalate '\t' hno (List.cons_ne_nil _ _)

theorem exists_row_iff :
    (∃ k subject predicate object, Row body k subject predicate object) ↔
      body.count '\t' + 1 = 4 := by
  simp only [← splitOn_eq_iff_row, ← length_splitOn]
  constructor
  · rintro ⟨k, subject, predicate, object, h⟩
    rw [h]
    rfl
  · intro h
    match body.splitOn '\t', h with
    | [k, subject, predicate, object], _ => exact ⟨k, subject, predicate, object, rfl⟩

/-! ## Kinds -/

theorem kindOf?_eq_some_iff {text : String} {kind : ObjectKind} :
    kindOf? text = some kind ↔ kind ≠ .invalid ∧ kind.text = text := by
  unfold kindOf?
  cases kind <;> split_ifs <;> simp_all [ObjectKind.text, eq_comm]

theorem kindOf?_eq_none_iff {text : String} :
    kindOf? text = none ↔ ∀ kind : ObjectKind, kind ≠ .invalid → kind.text ≠ text := by
  simp only [Option.eq_none_iff_forall_ne_some, ne_eq, kindOf?_eq_some_iff, not_and]

/-! ## What a line says -/

inductive Reads (body : List Char) : Except LineError (Option Statement) → Prop
  | layout (h : IsLayout body) : Reads body (.ok none)
  | statement {k subject predicate object : List Char} {kind : ObjectKind} (h : ¬ IsLayout body)
      (hrow : Row body k subject predicate object) (hk : TrimsTo k kind.text.toList)
      (hkind : kind ≠ .invalid) :
      Reads body (.ok (some
        (.new (.parse (.ofList subject)) (.ofList predicate) (.ofList object) kind)))
  | fieldCount (h : ¬ IsLayout body) (hcount : body.count '\t' + 1 ≠ 4) :
      Reads body (.error (.fieldCount (body.count '\t' + 1)))
  | unknownKind {k subject predicate object word : List Char} (h : ¬ IsLayout body)
      (hrow : Row body k subject predicate object) (hk : TrimsTo k word)
      (hword : ∀ kind : ObjectKind, kind ≠ .invalid → kind.text.toList ≠ word) :
      Reads body (.error (.unknownKind (.ofList word)))

theorem ofFields_of_length_ne {fields : List (List Char)} (h : fields.length ≠ 4) :
    ofFields fields = .error (.fieldCount fields.length) := by
  unfold ofFields
  split
  · exact absurd rfl h
  · rfl

theorem ofFields_of_kind {kind : ObjectKind} (hk : TrimsTo k kind.text.toList)
    (hkind : kind ≠ .invalid) :
    ofFields [k, subject, predicate, object] =
      .ok (.new (.parse (.ofList subject)) (.ofList predicate) (.ofList object) kind) := by
  simp only [ofFields, trim_eq_iff.mpr hk, String.ofList_toList,
    kindOf?_eq_some_iff.mpr ⟨hkind, rfl⟩]

theorem ofFields_of_no_kind (hk : TrimsTo k word)
    (hword : ∀ kind : ObjectKind, kind ≠ .invalid → kind.text.toList ≠ word) :
    ofFields [k, subject, predicate, object] = .error (.unknownKind (.ofList word)) := by
  have hnone : kindOf? (.ofList word) = none := by
    rw [kindOf?_eq_none_iff]
    intro kind hkind htext
    exact hword kind hkind (by rw [htext, String.toList_ofList])
  simp only [ofFields, trim_eq_iff.mpr hk, hnone]

theorem exists_reads (body : List Char) : ∃ r, Reads body r := by
  by_cases h : IsLayout body
  · exact ⟨_, .layout h⟩
  by_cases hcount : body.count '\t' + 1 = 4
  · obtain ⟨k, subject, predicate, object, hrow⟩ := exists_row_iff.mpr hcount
    by_cases hkind : ∃ kind : ObjectKind, kind ≠ .invalid ∧ kind.text.toList = trim k
    · obtain ⟨kind, hkind, htext⟩ := hkind
      exact ⟨_, .statement h hrow (trim_eq_iff.mp htext.symm) hkind⟩
    · exact ⟨_, .unknownKind h hrow (trim_eq_iff.mp rfl)
        fun kind hne htext => hkind ⟨kind, hne, htext⟩⟩
  · exact ⟨_, .fieldCount h hcount⟩

theorem readLine_of_reads {r : Except LineError (Option Statement)}
    (hbody : CutsTo isLineEnd line body) (h : Reads body r) : readLine line = r := by
  have hread : readLine line =
      if isSkipped body then .ok none else (ofFields (body.splitOn '\t')).map some := by
    unfold readLine
    rw [dropTrailing_eq_iff.mpr hbody]
  rw [hread]
  cases h with
  | layout h => rw [if_pos (isSkipped_iff.mpr h)]
  | statement h hrow hk hkind =>
    rw [if_neg (mt isSkipped_iff.mp h), splitOn_eq_iff_row.mpr hrow, ofFields_of_kind hk hkind]
    rfl
  | fieldCount h hcount =>
    rw [← length_splitOn] at hcount ⊢
    rw [if_neg (mt isSkipped_iff.mp h), ofFields_of_length_ne hcount]
    rfl
  | unknownKind h hrow hk hword =>
    rw [if_neg (mt isSkipped_iff.mp h), splitOn_eq_iff_row.mpr hrow, ofFields_of_no_kind hk hword]
    rfl

theorem readLine_eq_iff_reads {r : Except LineError (Option Statement)}
    (hbody : CutsTo isLineEnd line body) : readLine line = r ↔ Reads body r := by
  refine ⟨?_, readLine_of_reads hbody⟩
  rintro rfl
  obtain ⟨r, hr⟩ := exists_reads body
  rwa [readLine_of_reads hbody hr]

theorem readLine_append_lineEnds {ends : List Char} (hends : ∀ c ∈ ends, isLineEnd c) :
    readLine (line ++ ends) = readLine line := by
  simp only [readLine, dropTrailing_append hends]

theorem Reads.verbatim {s : Statement} (h : Reads body (.ok (some s))) :
    s.id = unassigned ∧ s.kind ≠ .invalid ∧
      ∃ k, Row body k s.subjectText.toList s.predicate.toList s.objectText.toList := by
  cases h with
  | @statement k subject predicate object kind _ hrow _ hkind =>
    refine ⟨rfl, ?_, k, ?_⟩
    · rwa [Statement.kind_new]
    · rw [Statement.subjectText_new, Statement.objectText_new hkind, Resource.text_parse]
      simpa only [Statement.new, String.toList_ofList] using hrow

theorem Reads.names {e : LineError} (h : Reads body (.error e)) :
    (body.count '\t' + 1 ≠ 4 ∧
      e.message = "expected 4 tab-separated fields, got " ++ toString (body.count '\t' + 1)) ∨
    (body.count '\t' + 1 = 4 ∧ ∃ k subject predicate object word,
      Row body k subject predicate object ∧ TrimsTo k word ∧
      e.message = "unknown statement kind '" ++ String.ofList word ++ "'") := by
  cases h with
  | fieldCount h hcount => exact .inl ⟨hcount, rfl⟩
  | unknownKind h hrow hk hword =>
    exact .inr ⟨exists_row_iff.mp ⟨_, _, _, _, hrow⟩, _, _, _, _, _, hrow, hk, rfl⟩

/-- What is read from a line is up to the text in front of its line ends. -/
theorem lines_read_exactly (line : List Char) :
    ∃ body, (∀ cs, CutsTo isLineEnd line cs ↔ cs = body) ∧
      (∀ r, readLine line = r ↔ Reads body r) ∧
      (∀ s, readLine line = .ok (some s) →
        s.id = unassigned ∧ s.kind ≠ .invalid ∧
        ∃ k, Row body k s.subjectText.toList s.predicate.toList s.objectText.toList) ∧
      (∀ e, readLine line = .error e →
        (body.count '\t' + 1 ≠ 4 ∧
          e.message = "expected 4 tab-separated fields, got " ++ toString (body.count '\t' + 1)) ∨
        (body.count '\t' + 1 = 4 ∧ ∃ k subject predicate object word,
          Row body k subject predicate object ∧ TrimsTo k word ∧
          e.message = "unknown statement kind '" ++ String.ofList word ++ "'")) ∧
      ∀ ends, (∀ c ∈ ends, isLineEnd c) → readLine (line ++ ends) = readLine line := by
  have hbody : CutsTo isLineEnd line (dropTrailing isLineEnd line) := dropTrailing_eq_iff.mp rfl
  refine ⟨dropTrailing isLineEnd line, ?_, fun r => readLine_eq_iff_reads hbody, ?_, ?_, ?_⟩
  · intro cs
    rw [← dropTrailing_eq_iff, eq_comm]
  · intro s hs
    exact ((readLine_eq_iff_reads hbody).mp hs).verbatim
  · intro e he
    exact ((readLine_eq_iff_reads hbody).mp he).names
  · intro ends hends
    exact readLine_append_lineEnds hends

theorem oddLines_read :
    let line := "\u00a0resource \t a\t\t[0] ".toList
    let s : Statement := ⟨.name " a", "", some (.resource (.name "[0] ")), unassigned⟩
    (readLine line = .ok (some s) ∧ s.kind ≠ .invalid ∧
        ∃ k, Row line k s.subjectText.toList s.predicate.toList s.objectText.toList) ∧
      readLine (line ++ "\r\n\r".toList) = readLine line ∧
      readLine "\t\r\t\t ".toList = .ok none ∧
      readLine " # a\tb\n".toList = .ok none ∧
      (readLine "literal\ta\tb".toList = .error (.fieldCount 3) ∧
        (LineError.fieldCount 3).message = "expected 4 tab-separated fields, got 3") ∧
      readLine "\u2003blob \ta\tb\tc".toList = .error (.unknownKind "blob") := by
  intro line s
  obtain ⟨body, hbody, hreads, hstatement, -, hends⟩ := lines_read_exactly line
  obtain ⟨blank, hblank, hlayout, -⟩ := lines_read_exactly "\t\r\t\t ".toList
  obtain ⟨comment, hcomment, hskipped, -⟩ := lines_read_exactly " # a\tb\n".toList
  obtain ⟨few, hfew, hcount, -, herror, -⟩ := lines_read_exactly "literal\ta\tb".toList
  obtain ⟨blob, hblob, hkind, -⟩ := lines_read_exactly "\u2003blob \ta\tb\tc".toList
  obtain rfl : line = body := (hbody line).mp (dropTrailing_eq_iff.mp (by decide))
  obtain rfl : "\t\r\t\t ".toList = blank := (hblank _).mp (dropTrailing_eq_iff.mp (by decide))
  obtain rfl : " # a\tb".toList = comment := (hcomment _).mp (dropTrailing_eq_iff.mp (by decide))
  obtain rfl : "literal\ta\tb".toList = few := (hfew _).mp (dropTrailing_eq_iff.mp (by decide))
  obtain rfl : "\u2003blob \ta\tb\tc".toList = blob :=
    (hblob _).mp (dropTrailing_eq_iff.mp (by decide))
  have hrow : Row line "\u00a0resource ".toList " a".toList [] "[0] ".toList := ⟨rfl, by decide⟩
  have hresource : readLine line = .ok (some s) :=
    (hreads _).mpr (.statement (mt isSkipped_iff.mpr (by decide)) hrow
      (trim_eq_iff.mp (by decide) : TrimsTo _ ObjectKind.resource.text.toList) (by decide))
  have hthree : readLine "literal\ta\tb".toList = .error (.fieldCount 3) :=
    (hcount _).mpr (.fieldCount (mt isSkipped_iff.mpr (by decide)) (by decide))
  refine ⟨⟨hresource, (hstatement s hresource).2⟩, hends _ (List.all_eq_true.mp (by decide)),
    ?_, ?_, ?_, ?_⟩
  · exact (hlayout _).mpr (.layout (.inl (List.all_eq_true.mp (by decide))))
  · exact (hskipped _).mpr
      (.layout (.inr ⟨[' '], " a\tb".toList, rfl, List.all_eq_true.mp (by decide)⟩))
  · exact ⟨hthree, ((herror _ hthree).resolve_right fun h => absurd h.1 (by decide)).2⟩
  · have hrow : Row "\u2003blob \ta\tb\tc".toList "\u2003blob ".toList ['a'] ['b'] ['c'] :=
      ⟨rfl, by decide⟩
    exact (hkind _).mpr (.unknownKind (mt isSkipped_iff.mpr (by decide)) hrow
      (trim_eq_iff.mp (by decide) : TrimsTo _ "blob".toList) (by rintro (_ | _) <;> decide))

end Table

end TripleStore
