import FindingsBrowser.Http.Router
import FindingsBrowser.Proofs.Finding.Wire
import FindingsBrowser.Proofs.Row.Wire

/-! # The wire — every text that is sent is read as what was sent

    All that server and clients exchange is written as records of findings, files, rows
    and plain texts.  Each is plain, and its reader undoes its writer, so the text of
    each gives it back.  A file under its path is also read as the file alone: the reader
    of files does not mind the path in front. -/

namespace FindingsBrowser

open Json

/-! ## Files -/

namespace FileDetail

def numbers (d : FileDetail) : List Nat :=
  d.findings.flatMap Finding.numbers ++ d.tolerance.toList

def slots (d : FileDetail) : List (String × Option Json) :=
  [("content", some (.string d.content)),
    ("findings", some (.array (d.findings.map Finding.toJson))),
    ("tolerance", d.tolerance.map .ofNat)]

theorem fields_eq_present (d : FileDetail) : d.fields = present d.slots := by
  rw [fields, whenPresent_eq]
  rfl

theorem plain_slots {room : Nat} {d : FileDetail} (h : Words d.numbers) :
    ∀ slot ∈ d.slots, PlainSlot (room + 4) slot := by
  rw [numbers, words_append, words_flatMap] at h
  have hfindings : Plain (room + 4) (.array (d.findings.map Finding.toJson)) :=
    plain_list fun f hf => Finding.plain_toJson (h.1 f hf)
  simp [slots, plainSlot_some, plainSlot_words, Plain.string, h.2, hfindings]

theorem plain_toJson {room : Nat} {d : FileDetail} (h : Words d.numbers) :
    Plain (room + 5) d.toJson := by
  rw [toJson, fields_eq_present]
  exact plain_present (plain_slots h)

theorem plain_toJsonAt {room : Nat} {d : FileDetail} (h : Words d.numbers) (path : String) :
    Plain (room + 5) (d.toJsonAt path) := by
  rw [toJsonAt, fields_eq_present, ← present_some]
  exact plain_present (List.forall_mem_cons.mpr ⟨plainSlot_some (.string path) _, plain_slots h⟩)

theorem list?_findings {d : FileDetail} (h : Words d.numbers) :
    list? Finding.ofJson? (.array (d.findings.map Finding.toJson)) = some d.findings := by
  rw [numbers, words_append, words_flatMap] at h
  exact list?_map fun f hf => Finding.ofJson?_toJson (h.1 f hf)

theorem ofJson?_toJson {d : FileDetail} (h : Words d.numbers) : ofJson? d.toJson = some d := by
  have hfindings := list?_findings h
  rw [numbers, words_append] at h
  rw [toJson, fields_eq_present, ofJson?]
  refine (record?_bind_present d.slots (by simp [slots]) _).trans ?_
  simp [slots, required, orDefault, string?, optional_word?, hfindings, h.2]

/-- A path in front of a file's fields is not looked at. -/
theorem ofJson?_toJsonAt {d : FileDetail} (h : Words d.numbers) (path : String) :
    ofJson? (d.toJsonAt path) = some d := by
  rw [← ofJson?_toJson h, ofJson?, ofJson?, toJsonAt, toJson, record?_cons_of_not_mem (by simp)]

end FileDetail

namespace FileAt

theorem ofJson?_toJson {f : FileAt} (h : Words f.detail.numbers) : ofJson? f.toJson = some f := by
  have hfindings := FileDetail.list?_findings h
  rw [FileDetail.numbers, words_append] at h
  rw [toJson, FileDetail.toJsonAt, FileDetail.fields_eq_present, ofJson?]
  refine (record?_bind_present (("path", some (.string f.path)) :: f.detail.slots)
    (by simp [FileDetail.slots]) _).trans ?_
  simp [FileDetail.slots, required, orDefault, string?, optional_word?, hfindings, h.2]

end FileAt

/-! ## Plain texts -/

theorem AnalysisKind.ofJson?_toJson (kind : AnalysisKind) : ofJson? kind.toJson = some kind := by
  cases kind <;> rfl

namespace Http

namespace Problem

def slots (p : Problem) : List (String × Option Json) :=
  [("error", some (.string p.error)), ("code", some (.string p.code))]

theorem plain_toJson {room : Nat} (p : Problem) : Plain (room + 1) p.toJson := by
  show Plain (room + 1) (.object (present p.slots))
  refine plain_present ?_
  simp [slots, plainSlot_some, Plain.string]

theorem ofJson?_toJson (p : Problem) : ofJson? p.toJson = some p := by
  rw [ofJson?]
  refine (record?_bind_present p.slots (by simp [slots]) _).trans ?_
  simp [slots, required, string?]

end Problem

namespace KindInfo

def slots (k : KindInfo) : List (String × Option Json) :=
  [("kind", some k.kind.toJson), ("title", some (.string k.title)),
    ("defaultSort", some (.string k.defaultSort))]

theorem plain_toJson {room : Nat} (k : KindInfo) : Plain (room + 1) k.toJson := by
  show Plain (room + 1) (.object (present k.slots))
  refine plain_present ?_
  simp [slots, plainSlot_some, Plain.string, AnalysisKind.toJson]

theorem ofJson?_toJson (k : KindInfo) : ofJson? k.toJson = some k := by
  rw [ofJson?]
  refine (record?_bind_present k.slots (by simp [slots]) _).trans ?_
  simp [slots, required, string?, AnalysisKind.ofJson?_toJson]

end KindInfo

end Http

/-- **TEXTS GIVE BACK WHAT WAS WRITTEN**: every finding, file, row and answer is read from
    its JSON text as the value it was written from, if its whole numbers have 64 bits and
    its other numbers are finite and given back by their own literals.  A file under its
    path is read both with the path and, past it, as the file alone. -/
theorem wire_round_trip :
    (∀ f : Finding, Words f.numbers → Restores Finding.ofJson? f.toJson f)
      ∧ (∀ d : FileDetail, Words d.numbers → Restores FileDetail.ofJson? d.toJson d)
      ∧ (∀ f : FileAt, Words f.detail.numbers →
          Restores FileAt.ofJson? f.toJson f ∧ Restores FileDetail.ofJson? f.toJson f.detail)
      ∧ (∀ k : Http.KindInfo, Restores Http.KindInfo.ofJson? k.toJson k)
      ∧ (∀ p : Http.Problem, Restores Http.Problem.ofJson? p.toJson p)
      ∧ (∀ q : Qualifier, AllReadBack q.floats → Restores Qualifier.ofJson? q.toJson q)
      ∧ (∀ c : Cell, AllReadBack c.floats → Restores Cell.ofJson? c.toJson c)
      ∧ (∀ row : Row, AllReadBack row.floats → Restores Row.ofJson? row.toJson row)
      ∧ ∀ page : Page Row, Words page.numbers → AllReadBack page.floats →
          Restores Page.ofJson? page.toJson page := by
  refine ⟨?_, ?_, ?_, ?_, ?_, ?_, ?_, ?_, ?_⟩
  · exact fun f h => Plain.restores (Finding.plain_toJson h) (Finding.ofJson?_toJson h)
  · exact fun d h => Plain.restores (FileDetail.plain_toJson h) (FileDetail.ofJson?_toJson h)
  · intro f h
    have hplain : Plain maxNesting f.toJson := FileDetail.plain_toJsonAt h f.path
    exact ⟨hplain.restores (FileAt.ofJson?_toJson h),
      hplain.restores (FileDetail.ofJson?_toJsonAt h f.path)⟩
  · exact fun k => Plain.restores k.plain_toJson k.ofJson?_toJson
  · exact fun p => Plain.restores p.plain_toJson p.ofJson?_toJson
  · exact fun q h => Plain.restores (Qualifier.plain_toJson h) (Qualifier.ofJson?_toJson h)
  · exact fun c h => Plain.restores (Cell.plain_toJson h) (Cell.ofJson?_toJson h)
  · exact fun row h => Plain.restores (Row.plain_toJson h) (Row.ofJson?_toJson h)
  · exact fun page h hfloats =>
      Plain.restores (Page.plain_toJson h hfloats) (Page.ofJson?_toJson h hfloats)

/-- The largest number of 64 bits, control characters and characters outside ASCII,
    fields left out and fields that are empty; and minus zero, the least positive number,
    a number with an exponent and one that no finite binary fraction is. -/
theorem wire_round_trip_extremes :
    let finding : Finding := .violation
      { line := Text.wordLimit - 1, severity := .info, rule := "", message := "\x01\t\"\\é😀",
        tool := none, column := some 0, description := some "" }
    let file : FileAt := ⟨"src/f.c", ⟨"\r\n", [finding, .duplicate ⟨1, 2, []⟩], some 0⟩⟩
    let cells : Cells :=
      ⟨[("a", .number ⟨true, 0⟩),
        ("b", .qualifier
          ⟨true, ⟨false, 1⟩, ⟨false, 0x7E37E43C8800759C⟩, ⟨false, 0x3FB999999999999A⟩⟩)],
        by decide⟩
    let page : Page Row := ⟨1, 1, Text.wordLimit - 1, [⟨"", cells⟩]⟩
    (Words finding.numbers ∧ Words file.detail.numbers ∧ Words page.numbers
        ∧ AllReadBack page.floats)
      ∧ Restores Finding.ofJson? finding.toJson finding
      ∧ Restores FileAt.ofJson? file.toJson file
      ∧ Restores FileDetail.ofJson? file.toJson file.detail
      ∧ Restores Page.ofJson? page.toJson page := by
  intro finding file cells page
  have hfinding : Words finding.numbers := by
    unfold Words
    decide
  have hfile : Words file.detail.numbers := by
    unfold Words
    decide
  have hpage : Words page.numbers := by
    unfold Words
    decide
  have hfloats : AllReadBack page.floats := by
    unfold AllReadBack ReadsBack
    decide +kernel
  obtain ⟨hfindings, -, hfiles, -, -, -, -, -, hpages⟩ := wire_round_trip
  exact ⟨⟨hfinding, hfile, hpage, hfloats⟩, hfindings finding hfinding, (hfiles file hfile).1,
    (hfiles file hfile).2, hpages page hpage hfloats⟩

end FindingsBrowser
