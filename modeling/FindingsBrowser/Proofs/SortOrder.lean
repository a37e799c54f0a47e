import FindingsBrowser.CommandLine.Arguments
import FindingsBrowser.Http.Router
import FindingsBrowser.Proofs.Navigation.State
import FindingsBrowser.Proofs.Table.Sorter
import Mathlib.Data.List.Forall2

/-! # Sort orders — which texts are sorters, and that each names its column

    `Sorter.Denotes` says what a text means as a sorter without reading it: a column
    alone, or a column, a colon and a direction in any ASCII case.  The reader accepts
    these texts and no others.  None of them has an empty column, so neither has a sort
    order from anywhere: the configuration, the command line, a request or a URL. -/

namespace FindingsBrowser

open Text

/-! ## Directions -/

namespace SortDirection

/-- A word names a direction in any ASCII case: it has the letters of its name, each as
    it is or as a capital. -/
def NamedBy (direction : SortDirection) (word : List Char) : Prop :=
  List.Forall₂ (fun c letter => c = letter ∨ c = letter.toUpper) word direction.name.toList

/-- The numbers of a small letter and of its capital, which stands 32 places in front. -/
theorem toNat_toUpper {letter : Char} (h : letter.isLower) :
    97 ≤ letter.val.toNat ∧ letter.val.toNat ≤ 122
      ∧ letter.toUpper.val.toNat + 32 = letter.val.toNat := by
  obtain ⟨hfirst, hlast⟩ := Bool.and_eq_true_iff.mp h
  have hletter : 'a'.val ≤ letter.val ∧ letter.val ≤ 'z'.val :=
    ⟨of_decide_eq_true hfirst, of_decide_eq_true hlast⟩
  have hlow : 97 ≤ letter.val.toNat := UInt32.le_iff_toNat_le.mp hletter.1
  have hhigh : letter.val.toNat ≤ 122 := UInt32.le_iff_toNat_le.mp hletter.2
  have hupper : letter.toUpper.val = letter.val + ('A'.val - 'a'.val) := by
    delta Char.toUpper
    rw [dif_pos hletter]
  have hdown : ('A'.val - 'a'.val).toNat = 2 ^ 32 - 32 := rfl
  refine ⟨hlow, hhigh, ?_⟩
  rw [hupper, UInt32.toNat_add, hdown]
  omega

/-- A character is lowered to a small letter exactly if it is that letter or its
    capital. -/
theorem toLower_eq_iff {c letter : Char} (h : letter.isLower) :
    c.toLower = letter ↔ c = letter ∨ c = letter.toUpper := by
  obtain ⟨hlow, hhigh, hcapital⟩ := toNat_toUpper h
  have hA : 'A'.val.toNat = 65 := rfl
  have hZ : 'Z'.val.toNat = 90 := rfl
  simp only [Char.ext_iff, ← UInt32.toNat_inj]
  by_cases hupper : c.val ≥ 'A'.val ∧ c.val ≤ 'Z'.val
  · have hlower : c.toLower.val = c.val + ('a'.val - 'A'.val) := congrArg Char.val (dif_pos hupper)
    have hup : ('a'.val - 'A'.val).toNat = 32 := rfl
    rw [ge_iff_le, UInt32.le_iff_toNat_le, UInt32.le_iff_toNat_le] at hupper
    rw [hlower, UInt32.toNat_add, hup]
    omega
  · have hsame : c.toLower.val = c.val := congrArg Char.val (dif_neg hupper)
    rw [ge_iff_le, UInt32.le_iff_toNat_le, UInt32.le_iff_toNat_le] at hupper
    rw [hsame]
    omega

/-- A word is lowered to a word in small letters exactly if it has its letters, each as it
    is or as a capital. -/
theorem map_toLower_eq_iff {name : List Char} (h : ∀ letter ∈ name, letter.isLower) :
    ∀ word : List Char, word.map Char.toLower = name
      ↔ List.Forall₂ (fun c letter => c = letter ∨ c = letter.toUpper) word name := by
  induction name with
  | nil =>
      intro word
      rw [List.map_eq_nil_iff, List.forall₂_nil_right_iff]
  | cons letter rest ih =>
      intro word
      cases word with
      | nil => exact ⟨fun h => (nomatch h), fun h => (nomatch h)⟩
      | cons c cs =>
          rw [List.map_cons, List.cons_eq_cons, List.forall₂_cons,
            toLower_eq_iff (h letter List.mem_cons_self),
            ih (fun l hl => h l (List.mem_cons_of_mem letter hl)) cs]

/-- A direction is looked up under its name only. -/
theorem ofName?_eq_some_iff {name : String} {direction : SortDirection} :
    ofName? name = some direction ↔ name = direction.name := by
  constructor
  · intro h
    have hname := List.find?_some h
    exact (beq_iff_eq.mp hname).symm
  · rintro rfl
    cases direction with
    | asc => rfl
    | desc => rfl

/-- The names of directions are written in small letters. -/
theorem isLower_of_mem_name (direction : SortDirection) :
    ∀ letter ∈ direction.name.toList, letter.isLower := by
  cases direction with
  | asc => exact Percent.forall_mem_of_all (by decide)
  | desc => exact Percent.forall_mem_of_all (by decide)

/-- A word names a direction exactly if it is lowered to its name. -/
theorem namedBy_iff {direction : SortDirection} {word : List Char} :
    direction.NamedBy word ↔ word.map Char.toLower = direction.name.toList :=
  (map_toLower_eq_iff (isLower_of_mem_name direction) word).symm

/-- No word that names a direction has a colon. -/
theorem NamedBy.colon_not_mem {direction : SortDirection} {word : List Char}
    (h : direction.NamedBy word) : ':' ∉ word := by
  intro hmem
  have hlowered : ':' ∈ word.map Char.toLower := List.mem_map.mpr ⟨':', hmem, rfl⟩
  rw [namedBy_iff.mp h] at hlowered
  exact not_mem_name direction ':' (by decide) hlowered

/-- **DIRECTIONS** are read from the words that name them, and from no others. -/
theorem read_eq_ok_iff {word : List Char} {direction : SortDirection} :
    read word = .ok direction ↔ direction.NamedBy word := by
  have hread : read word = .ok direction
      ↔ ofName? (String.ofList (word.map Char.toLower)) = some direction := by
    rw [read]
    cases ofName? (String.ofList (word.map Char.toLower)) with
    | none => exact ⟨fun h => (nomatch h), fun h => (nomatch h)⟩
    | some found =>
        dsimp only
        rw [Except.ok.injEq, Option.some.injEq]
  rw [hread, ofName?_eq_some_iff, namedBy_iff, ← String.toList_inj, String.toList_ofList]

end SortDirection

/-! ## Sorters -/

namespace Sorter

/-- What a text means as a sorter: a column alone is sorted ascending, and one before a
    colon in the direction that is named behind it. -/
inductive Denotes : List Char → Sorter → Prop where
  | column {column : List Char} (hcolumn : column ≠ []) (hcolon : ':' ∉ column) :
      Denotes column ⟨String.ofList column, .asc⟩
  | directed {column word : List Char} {direction : SortDirection} (hcolumn : column ≠ [])
      (hword : direction.NamedBy word) :
      Denotes (column ++ ':' :: word) ⟨String.ofList column, direction⟩

/-- No text means an empty column. -/
theorem Denotes.column_ne {text : List Char} {s : Sorter} (h : Denotes text s) :
    s.column ≠ "" := by
  cases h with
  | column hcolumn hcolon => exact ofList_ne_empty hcolumn
  | directed hcolumn hword => exact ofList_ne_empty hcolumn

/-- A column and a direction make their sorter if the column is not empty. -/
theorem ofColumn_eq_ok_iff {text column : List Char} {direction : SortDirection} {s : Sorter} :
    ofColumn text column direction = .ok s
      ↔ column ≠ [] ∧ s = ⟨String.ofList column, direction⟩ := by
  rw [ofColumn]
  cases column with
  | nil =>
      constructor
      · intro h
        cases h
      · rintro ⟨hcolumn, -⟩
        exact absurd rfl hcolumn
  | cons c cs =>
      constructor
      · intro h
        exact ⟨List.cons_ne_nil c cs, (Except.ok.inj h).symm⟩
      · rintro ⟨-, rfl⟩
        rfl

/-- **SORTERS** are read from the texts that mean them, and from no others. -/
theorem read_eq_ok_iff {text : List Char} {s : Sorter} : read text = .ok s ↔ Denotes text s := by
  constructor
  · intro h
    rw [read] at h
    split at h
    · case _ hcut =>
        obtain ⟨hcolumn, rfl⟩ := ofColumn_eq_ok_iff.mp h
        exact .column hcolumn (not_mem_of_cutLast hcut)
    · case _ column word hcut =>
        obtain ⟨rfl, -⟩ := cutLast_eq_some hcut
        split at h
        · cases h
        · case _ direction hdirection =>
            obtain ⟨hcolumn, rfl⟩ := ofColumn_eq_ok_iff.mp h
            exact .directed hcolumn (SortDirection.read_eq_ok_iff.mp hdirection)
  · intro h
    cases h with
    | column hcolumn hcolon =>
        rw [read, cutLast_eq_none hcolon]
        exact ofColumn_eq_ok_iff.mpr ⟨hcolumn, rfl⟩
    | directed hcolumn hword =>
        -- the direction has no colon, so the last one stands in front of it
        rw [read, cutLast_append _ hword.colon_not_mem]
        dsimp only
        rw [SortDirection.read_eq_ok_iff.mpr hword]
        exact ofColumn_eq_ok_iff.mpr ⟨hcolumn, rfl⟩

/-- Whatever text a sorter is read from, it names its column. -/
theorem column_ne_of_read {text : List Char} {s : Sorter} (h : read text = .ok s) :
    s.column ≠ "" :=
  (read_eq_ok_iff.mp h).column_ne

end Sorter

/-! ## Whatever a computation returns -/

/-- Whatever a computation returns has a property. -/
def Ensures {ε α : Type} (x : Except ε α) (p : α → Prop) : Prop :=
  ∀ a, x = .ok a → p a

namespace Ensures

variable {ε α β : Type} {x : Except ε α} {f : α → Except ε β} {p : α → Prop} {q : β → Prop}

theorem ok {a : α} (h : p a) : Ensures (.ok a : Except ε α) p := by
  intro b hb
  cases hb
  exact h

theorem error (e : ε) : Ensures (.error e : Except ε α) p :=
  fun _ h => nomatch h

/-- Step by step: what the first step ensures can be relied on in the second. -/
theorem bind (hx : Ensures x p) (hf : ∀ a, p a → Ensures (f a) q) : Ensures (x >>= f) q := by
  cases x with
  | error e => exact error e
  | ok a => exact hf a (hx a rfl)

/-- A step that the property does not depend on. -/
theorem skip (hf : ∀ a, Ensures (f a) q) : Ensures (x >>= f) q :=
  bind (fun _ _ => trivial) fun a (_ : True) => hf a

end Ensures

/-- Each result of a partial function on a list is one of an item of the list. -/
theorem exists_of_mem_mapM {α β : Type} {f : α → Option β} {items : List α} {results : List β}
    (h : items.mapM f = some results) : ∀ b ∈ results, ∃ a ∈ items, f a = some b := by
  induction items generalizing results with
  | nil =>
      cases h
      exact fun b hb => absurd hb List.not_mem_nil
  | cons a rest ih =>
      rw [List.mapM_cons] at h
      obtain ⟨first, hfirst, h⟩ := Option.bind_eq_some_iff.mp h
      obtain ⟨others, hothers, h⟩ := Option.bind_eq_some_iff.mp h
      cases h
      rw [List.forall_mem_cons]
      refine ⟨⟨a, List.mem_cons_self, hfirst⟩, fun b hb => ?_⟩
      obtain ⟨a', ha', hb⟩ := ih hothers b hb
      exact ⟨a', List.mem_cons_of_mem a ha', hb⟩

/-! ## Where sort orders come from -/

/-- All sorters of a sort order name their columns. -/
def Named (sorters : List Sorter) : Prop := ∀ sorter ∈ sorters, sorter.column ≠ ""

theorem named_singleton {sorter : Sorter} (h : sorter.column ≠ "") : Named [sorter] :=
  List.forall_mem_singleton.mpr h

theorem Sorter.ensures_read (text : List Char) :
    Ensures (Sorter.read text) fun sorter => sorter.column ≠ "" :=
  fun _ h => column_ne_of_read h

/-- **THE CONFIGURATION** has a default sorter that names its column, whatever its text
    is. -/
theorem Config.column_defaultSorter_ne (config : Config) : config.defaultSorter.column ≠ "" := by
  rw [defaultSorter]
  split
  · case _ sorter hread => exact Sorter.column_ne_of_read hread
  · decide

namespace Http

theorem ensures_readSorters (pieces : List (List Char)) : Ensures (readSorters pieces) Named := by
  induction pieces with
  | nil => exact .ok fun _ h => absurd h List.not_mem_nil
  | cons piece rest ih =>
      rw [readSorters]
      split
      · exact ih
      · refine (Sorter.ensures_read piece).bind fun sorter hsorter => ?_
        refine ih.bind fun sorters hsorters => ?_
        exact .ok (List.forall_mem_cons.mpr ⟨hsorter, hsorters⟩)

theorem ensures_readSort (value : Option String) {default : Sorter} (h : default.column ≠ "") :
    Ensures (readSort value default) Named := by
  rw [readSort]
  split
  · exact .error _
  · exact .ok (named_singleton h)
  · case _ hread => exact .ok (ensures_readSorters _ _ hread)

/-- **A REQUEST FOR ROWS** asks for named columns if the default sorter has one. -/
theorem Server.ensures_pageRequest (server : Server) (h : server.defaultSorter.column ≠ "")
    (pairs : List (String × String)) :
    Ensures (server.pageRequest pairs) fun request => Named request.sorters := by
  refine .skip fun page => ?_
  refine .skip fun size => ?_
  refine (ensures_readSort _ h).bind fun sorters hsorters => ?_
  exact .ok hsorters

end Http

namespace ListState

/-- **A URL** leads to named columns if the default sorter has one. -/
theorem named_read {default : Sorter} (h : default.column ≠ "") (query : List Char) :
    Named (read default query).sorters := by
  have hregular := regular_getD_read? query
  rw [read, withDefault]
  split
  · exact named_singleton h
  · exact hregular.named

end ListState

namespace CommandLine

theorem named_readSorters {value : String} {sorters : List Sorter}
    (h : readSorters value = some sorters) : Named sorters := by
  intro sorter hmem
  obtain ⟨piece, -, hread⟩ := exists_of_mem_mapM h sorter hmem
  split at hread
  · case _ hfound =>
      cases hread
      exact Sorter.column_ne_of_read hfound
  · exact nomatch hread

theorem ensures_readSort (scan : Scan) : Ensures (readSort scan) Named := by
  rw [readSort]
  split
  · case _ groups hgroups =>
      refine .ok fun sorter hmem => ?_
      obtain ⟨group, hgroup, hsorter⟩ := List.mem_flatten.mp hmem
      obtain ⟨value, -, hread⟩ := exists_of_mem_mapM hgroups group hgroup
      exact named_readSorters hread sorter hsorter
  · exact .error _

/-- The sort order that a command is given. -/
def Command.sorters : Command → List Sorter
  | .list _ _ _ sorters _ => sorters
  | .serve _ _ | .show .. => []

/-- The command that was read has named columns only. -/
def NamesColumns (result : Command × Option String) : Prop := Named result.1.sorters

theorem ensures_needed {α : Type} (scan : Scan) {a : α} {p : α → Prop} (h : p a) :
    Ensures (needed scan (some a)) p := by
  rw [needed.eq_def]
  split
  · exact .error _
  · case _ heq =>
      cases heq
      exact .ok h
  · case _ heq => exact nomatch heq

theorem ensures_named {α : Type} {x : Except Exit α} {p : α → Prop} (h : Ensures x p)
    (name : String) : Ensures (named name x) p := by
  rw [named.eq_def]
  split
  · exact .error _
  · exact h

theorem ensures_readServe (args : List String) : Ensures (readServe args) NamesColumns := by
  refine .skip fun _ => .skip fun port => .skip fun openBrowser => .skip fun config => ?_
  exact ensures_needed _ fun _ h => absurd h List.not_mem_nil

theorem ensures_readList (args : List String) : Ensures (readList args) NamesColumns := by
  refine .skip fun _ => .skip fun kind => .skip fun state => .skip fun page => ?_
  refine (ensures_readSort _).bind fun sorters hsorters => ?_
  refine .skip fun activate => .skip fun config => .skip fun kind => ?_
  exact .ok hsorters

theorem ensures_readShow (args : List String) : Ensures (readShow args) NamesColumns := by
  refine .skip fun _ => .skip fun kind => .skip fun first => .skip fun last => ?_
  refine .skip fun line => .skip fun config => .skip fun kind => .skip fun path => ?_
  exact .ok fun _ h => absurd h List.not_mem_nil

/-- **THE COMMAND LINE** gives a command named columns only. -/
theorem Invocation.ensures_read (args : List String) :
    Ensures (Invocation.read args) fun invocation => Named invocation.command.sorters := by
  refine .skip fun outer => .skip fun rest => ?_
  -- whatever the command is, its configuration is chosen at the end
  have hconfig : ∀ result, NamesColumns result →
      Ensures (ε := Exit) (.ok ⟨result.1, result.2.or outer⟩)
        fun invocation : Invocation => Named invocation.command.sorters :=
    fun _ h => .ok h
  dsimp only
  split
  · exact (ensures_named (ensures_readServe _) _).bind hconfig
  · exact (ensures_named (ensures_readList _) _).bind hconfig
  · exact (ensures_named (ensures_readShow _) _).bind hconfig
  · exact .error _
  · exact .error _

end CommandLine

/-- **TEXTS OF SORTERS**: a sorter that names its column is read from its text as it is,
    whatever the column holds.  A text is read as a sorter exactly if it is a column
    without a colon, or a column, a colon and a word that names a direction in any ASCII
    case; the column is never empty.  So the default sorter of every configuration, the
    sort order of every command line, that of every request for rows and that of every
    URL name their columns. -/
theorem sorter_text_codec :
    (∀ s : Sorter, s.column ≠ "" → Sorter.read s.write.toList = .ok s)
      ∧ (∀ text s, Sorter.read text = .ok s ↔ Sorter.Denotes text s)
      ∧ (∀ text s, Sorter.read text = .ok s → s.column ≠ "")
      ∧ (∀ config : Config, config.defaultSorter.column ≠ "")
      ∧ (∀ args invocation, CommandLine.Invocation.read args = .ok invocation →
          Named invocation.command.sorters)
      ∧ (∀ store tree config pairs request,
          (Http.Server.ofConfig store tree config).pageRequest pairs = .ok request →
          Named request.sorters)
      ∧ ∀ (config : Config) query, Named (ListState.read config.defaultSorter query).sorters := by
  refine ⟨fun s h => Sorter.read_write h, fun text s => Sorter.read_eq_ok_iff,
    fun text s h => Sorter.column_ne_of_read h, Config.column_defaultSorter_ne,
    CommandLine.Invocation.ensures_read, ?_, ?_⟩
  · intro store tree config pairs request h
    have hdefault := config.column_defaultSorter_ne
    exact Http.Server.ensures_pageRequest (.ofConfig store tree config) hdefault pairs request h
  · intro config query
    exact ListState.named_read config.column_defaultSorter_ne query

/-- A column with a colon is read from its text, with a direction in any case behind it;
    so it is on a command line. -/
theorem sorter_text_codec_colon :
    let args := ["list", "complexity", "--sort", "a:b:DeSC,name"]
    Sorter.read (Sorter.write ⟨"a:b", .desc⟩).toList = .ok ⟨"a:b", .desc⟩
      ∧ Sorter.read "a:b:DeSC".toList = .ok ⟨"a:b", .desc⟩
      ∧ (∃ invocation, CommandLine.Invocation.read args = .ok invocation
          ∧ invocation.command.sorters = [⟨"a:b", .desc⟩, ⟨"name", .asc⟩]
          ∧ Named invocation.command.sorters) := by
  intro args
  obtain ⟨hwritten, hread, -, -, hargs, -⟩ := sorter_text_codec
  have hdenotes : Sorter.Denotes ("a:b".toList ++ ':' :: "DeSC".toList) ⟨"a:b", .desc⟩ :=
    .directed (by decide) (SortDirection.namedBy_iff.mpr rfl)
  exact ⟨hwritten ⟨"a:b", .desc⟩ (by decide), (hread _ _).mpr hdenotes,
    ⟨_, rfl, rfl, hargs args _ rfl⟩⟩

end FindingsBrowser
