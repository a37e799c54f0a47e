import FindingsBrowser.Proofs.Json.Records
import FindingsBrowser.Row.Basic

/-! # Rows on the wire — what is written is read

    A cell says by the kind of its JSON value alone whether it is a number, a text or a
    qualifier.  Cells stand in ascending order of their columns, so entering them one by
    one keeps the order they were written in.  All of it rests on the binary64 numbers
    in it being given back by their literals. -/

namespace FindingsBrowser

open Json

/-! ## Qualifiers -/

namespace Qualifier

def floats (q : Qualifier) : List Binary64 := [q.numerator, q.denominator, q.ratio]

def slots (q : Qualifier) : List (String × Option Json) :=
  [("available", some (.bool q.available)), ("numerator", some (.ofBinary64 q.numerator)),
    ("denominator", some (.ofBinary64 q.denominator)), ("ratio", some (.ofBinary64 q.ratio))]

theorem plain_toJson {room : Nat} {q : Qualifier} (h : AllReadBack q.floats) :
    Plain (room + 1) q.toJson := by
  simp only [floats, allReadBack_cons] at h
  show Plain (room + 1) (.object (present q.slots))
  refine plain_present ?_
  simp [slots, plainSlot_some, Plain.bool, plain_ofBinary64, h]

theorem ofJson?_toJson {q : Qualifier} (h : AllReadBack q.floats) : ofJson? q.toJson = some q := by
  simp only [floats, allReadBack_cons] at h
  rw [ofJson?]
  refine (record?_bind_present q.slots (by simp [slots]) _).trans ?_
  simp [slots, required, orDefault, bool?, binary64?_ofBinary64, h]

end Qualifier

/-! ## Cells -/

namespace Cell

def floats : Cell → List Binary64
  | number x => [x]
  | text _ => []
  | qualifier q => q.floats

theorem plain_toJson {room : Nat} {c : Cell} (h : AllReadBack c.floats) :
    Plain (room + 1) c.toJson := by
  cases c with
  | number x => exact plain_ofBinary64 (allReadBack_cons.mp h).1
  | text s => exact .string s
  | qualifier q => exact Qualifier.plain_toJson h

theorem ofJson?_toJson {c : Cell} (h : AllReadBack c.floats) : ofJson? c.toJson = some c := by
  cases c with
  | number x =>
      have hx : ReadsBack x := (allReadBack_cons.mp h).1
      rw [toJson, Json.ofBinary64, if_pos hx.1, ofJson?, hx.2]
      rfl
  | text s => rfl
  | qualifier q =>
      have hplain : Plain 1 q.toJson := Qualifier.plain_toJson h
      have hreadable := hplain.readable
      have hread := Qualifier.ofJson?_toJson h
      rw [Qualifier.toJson] at hreadable hread
      rw [toJson, Qualifier.toJson, ofJson?, if_pos hreadable, hread]
      · rfl
      · intro n heq
        cases heq
      · intro s heq
        cases heq

end Cell

namespace Cells

def floats (cells : Cells) : List Binary64 := cells.entries.flatMap fun entry => entry.2.floats

/-- An entry behind all others is put at the end. -/
theorem insertEntry_of_forall_lt {column : String} {cell : Cell} {entries : List (String × Cell)}
    (h : ∀ entry ∈ entries, entry.1 < column) :
    insertEntry column cell entries = entries ++ [(column, cell)] := by
  induction entries with
  | nil => rfl
  | cons entry entries ih =>
      obtain ⟨c, x⟩ := entry
      have hlt : c < column := h (c, x) List.mem_cons_self
      have hne : column ≠ c := fun heq => String.lt_irrefl c (heq ▸ hlt)
      rw [insertEntry, if_neg (String.lt_asymm hlt), if_neg hne,
        ih fun entry hentry => h entry (List.mem_cons_of_mem _ hentry), List.cons_append]

/-- Entries that go on in order are put behind the cells that are there. -/
theorem entries_foldl_insert {entries : List (String × Cell)} :
    ∀ {cells : Cells}, (cells.entries ++ entries).Pairwise (fun a b => a.1 < b.1) →
      (entries.foldl (fun cells entry => cells.insert entry.1 entry.2) cells).entries
        = cells.entries ++ entries := by
  induction entries with
  | nil => intro cells _; rw [List.append_nil, List.foldl_nil]
  | cons entry entries ih =>
      intro cells h
      -- the next entry stands behind all that are there
      have hinsert : (cells.insert entry.1 entry.2).entries = cells.entries ++ [entry] := by
        refine insertEntry_of_forall_lt fun other hother => ?_
        exact (List.pairwise_append.mp h).2.2 other hother entry List.mem_cons_self
      rw [List.foldl_cons, ih, hinsert, List.append_assoc, List.singleton_append]
      rwa [hinsert, List.append_assoc, List.singleton_append]

/-- **IN ORDER**: cells are the cells of their own entries. -/
theorem ofList_entries (cells : Cells) : ofList cells.entries = cells := by
  have hentries : (ofList cells.entries).entries = cells.entries :=
    entries_foldl_insert (show (empty.entries ++ cells.entries).Pairwise _ from cells.sorted)
  obtain ⟨entries, sorted⟩ := cells
  generalize ofList _ = result at hentries
  obtain ⟨entries', sorted'⟩ := result
  obtain rfl : entries' = entries := hentries
  rfl

theorem plain_toJson {room : Nat} {cells : Cells} (h : AllReadBack cells.floats) :
    Plain (room + 2) cells.toJson := by
  refine .object fun field hfield => ?_
  obtain ⟨entry, hentry, rfl⟩ := List.mem_map.mp hfield
  exact Cell.plain_toJson (allReadBack_flatMap.mp h entry hentry)

theorem ofJson?_toJson {cells : Cells} (h : AllReadBack cells.floats) :
    ofJson? cells.toJson = some cells := by
  have hentry : ∀ entry ∈ cells.entries, entryOfJson? (entry.1, entry.2.toJson) = some entry := by
    intro entry hmem
    rw [entryOfJson?, Cell.ofJson?_toJson (allReadBack_flatMap.mp h entry hmem)]
    rfl
  rw [toJson, ofJson?, mapM_map_eq_some hentry, Option.map_some, ofList_entries]

end Cells

/-! ## Rows -/

namespace Row

def floats (row : Row) : List Binary64 := row.cells.floats

def slots (row : Row) : List (String × Option Json) :=
  [("name", some (.string row.name)), ("values", some row.cells.toJson)]

theorem plain_toJson {room : Nat} {row : Row} (h : AllReadBack row.floats) :
    Plain (room + 3) row.toJson := by
  show Plain (room + 3) (.object (present row.slots))
  refine plain_present ?_
  simp [slots, plainSlot_some, Plain.string, Cells.plain_toJson h]

theorem ofJson?_toJson {row : Row} (h : AllReadBack row.floats) :
    ofJson? row.toJson = some row := by
  rw [ofJson?]
  refine (record?_bind_present row.slots (by simp [slots]) _).trans ?_
  simp [slots, required, orDefault, string?, Cells.ofJson?_toJson h]

end Row

/-! ## Pages -/

namespace Page

def numbers (page : Page Row) : List Nat := [page.page, page.lastPage, page.totalCount]

def floats (page : Page Row) : List Binary64 := page.rows.flatMap Row.floats

def slots (page : Page Row) : List (String × Option Json) :=
  [("page", some (.ofNat page.page)), ("lastPage", some (.ofNat page.lastPage)),
    ("totalCount", some (.ofNat page.totalCount)),
    ("data", some (.array (page.rows.map Row.toJson)))]

theorem plain_toJson {room : Nat} {page : Page Row} (h : Words page.numbers)
    (hfloats : AllReadBack page.floats) : Plain (room + 5) page.toJson := by
  simp only [numbers, words_cons] at h
  have hrows : Plain (room + 4) (.array (page.rows.map Row.toJson)) :=
    plain_list fun row hrow => Row.plain_toJson (allReadBack_flatMap.mp hfloats row hrow)
  show Plain (room + 5) (.object (present page.slots))
  refine plain_present ?_
  simp [slots, plainSlot_some, plain_ofNat, h, hrows]

theorem ofJson?_toJson {page : Page Row} (h : Words page.numbers)
    (hfloats : AllReadBack page.floats) : ofJson? page.toJson = some page := by
  simp only [numbers, words_cons] at h
  have hrows : list? Row.ofJson? (.array (page.rows.map Row.toJson)) = some page.rows :=
    list?_map fun row hrow => Row.ofJson?_toJson (allReadBack_flatMap.mp hfloats row hrow)
  rw [ofJson?]
  refine (record?_bind_present page.slots (by simp [slots]) _).trans ?_
  simp [slots, required, orDefault, word?_ofNat, h, hrows]

end Page

end FindingsBrowser
