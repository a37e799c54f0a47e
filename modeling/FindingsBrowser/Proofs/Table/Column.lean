import FindingsBrowser.Proofs.Table.Resort
import Mathlib.Data.List.Forall2

/-! # One column — the shape of a table that is sorted by it

    A column parts the rows into four blocks: ratios that are not available, numbers (with
    the available ratios), texts, and rows without the column.  The direction decides the
    order of the first three blocks and the order within them; the last one is always the
    last, as it stands.

    * `eq_flatMap_filter` finds the blocks of a list in order, `filter_sortRows` turns each
      of them into a sort of its own.
    * `forall₂_of_ordered` compares two orders of the same rows place by place: descending
      is ascending from the other end, up to rows that draw. -/

namespace FindingsBrowser

open Std

/-! ## Lists in order -/

section Ordered

variable {α : Type} {cmp : α → α → Ordering} [TransCmp cmp]

/-- Where the members with a property are smaller than the others, a list in order has them
    first. -/
theorem eq_filter_append_filter {p : α → Bool} {xs : List α}
    (hordered : xs.Pairwise fun a b => (cmp a b).isLE = true)
    (hlt : ∀ a ∈ xs, ∀ b ∈ xs, p a = true → p b = false → cmp a b = .lt) :
    xs = xs.filter p ++ xs.filter fun a => !p a := by
  induction xs with
  | nil => rfl
  | cons x xs ih =>
      obtain ⟨hhead, htail⟩ := List.pairwise_cons.mp hordered
      have hlt' : ∀ a ∈ xs, ∀ b ∈ xs, p a = true → p b = false → cmp a b = .lt :=
        fun a ha b hb => hlt a (List.mem_cons_of_mem x ha) b (List.mem_cons_of_mem x hb)
      cases hx : p x with
      | true =>
          rw [List.filter_cons_of_pos hx, List.filter_cons_of_neg (by simp [hx]),
            List.cons_append, ← ih htail hlt']
      | false =>
          -- a member behind the head that has the property would be smaller than it
          have hnone : xs.filter p = [] := by
            rw [List.filter_eq_nil_iff]
            intro y hy hpy
            have hless : cmp y x = .lt :=
              hlt y (List.mem_cons_of_mem x hy) x List.mem_cons_self hpy hx
            have hle : (cmp x y).isLE = true := hhead y hy
            have hswap : cmp x y = (cmp y x).swap := OrientedCmp.eq_swap
            rw [hswap, hless] at hle
            exact Bool.false_ne_true hle
          have hrest : xs = xs.filter fun a => !p a := by
            have hsplit := ih htail hlt'
            rwa [hnone, List.nil_append] at hsplit
          rw [List.filter_cons_of_neg (by simp [hx]), List.filter_cons_of_pos (by simp [hx]),
            hnone, List.nil_append, ← hrest]

/-- **BLOCKS**: where earlier classes are smaller than later ones, a list in order is its
    classes, one after another. -/
theorem eq_flatMap_filter {β : Type} [DecidableEq β] {classOf : α → β} {classes : List β}
    (hnodup : classes.Nodup)
    (hlt : classes.Pairwise fun b c => ∀ x y, classOf x = b → classOf y = c → cmp x y = .lt)
    {xs : List α} (hordered : xs.Pairwise fun a b => (cmp a b).isLE = true)
    (hmem : ∀ x ∈ xs, classOf x ∈ classes) :
    xs = classes.flatMap fun b => xs.filter fun x => classOf x = b := by
  induction classes generalizing xs with
  | nil => exact List.eq_nil_iff_forall_not_mem.mpr fun x hx => List.not_mem_nil (hmem x hx)
  | cons b rest ih =>
      obtain ⟨hhead, htail⟩ := List.pairwise_cons.mp hlt
      obtain ⟨hnew, hnodup'⟩ := List.nodup_cons.mp hnodup
      have hrest : ∀ x ∈ xs, classOf x ≠ b → classOf x ∈ rest :=
        fun x hx hne => List.mem_of_ne_of_mem hne (hmem x hx)
      have hsplit : xs = xs.filter (fun x => classOf x = b)
          ++ xs.filter fun x => !decide (classOf x = b) := by
        refine eq_filter_append_filter hordered fun x _ y hy hpx hpy => ?_
        exact hhead (classOf y) (hrest y hy (of_decide_eq_false hpy)) x y (of_decide_eq_true hpx) rfl
      have hmem' : ∀ x ∈ xs.filter (fun x => !decide (classOf x = b)), classOf x ∈ rest := by
        intro x hx
        obtain ⟨hx, hne⟩ := List.mem_filter.mp hx
        exact hrest x hx (by simpa using hne)
      have hothers := ih hnodup' htail (hordered.filter _) hmem'
      -- of the other classes nothing is lost with the first one
      have hkept : ∀ c ∈ rest, (xs.filter fun x => !decide (classOf x = b)).filter
          (fun x => classOf x = c) = xs.filter fun x => classOf x = c := by
        intro c hc
        rw [List.filter_filter]
        refine List.filter_congr fun x _ => ?_
        by_cases hx : classOf x = c
        · have hne : classOf x ≠ b := fun hb => hnew (hb ▸ hx ▸ hc)
          simp [hx, hx ▸ hne]
        · simp [hx]
      rw [List.flatMap_def, List.map_congr_left hkept, ← List.flatMap_def] at hothers
      rw [List.flatMap_cons, ← hothers]
      exact hsplit

/-- **TWO ORDERS OF THE SAME MEMBERS** draw place by place. -/
theorem forall₂_of_ordered : ∀ {xs ys : List α},
    xs.Pairwise (fun a b => (cmp a b).isLE = true) →
    ys.Pairwise (fun a b => (cmp a b).isLE = true) →
    (∀ a, (draws cmp a xs).length = (draws cmp a ys).length) →
    List.Forall₂ (fun a b => cmp a b = .eq) xs ys := by
  intro xs
  induction xs with
  | nil =>
      intro ys _ _ hdraws
      cases ys with
      | nil => exact .nil
      | cons y ys =>
          have hself : cmp y y = .eq := ReflCmp.compare_self
          have hy := hdraws y
          rw [draws_cons_of_eq hself] at hy
          exact nomatch hy
  | cons x xs ih =>
      intro ys hxs hys hdraws
      have hnonempty : ∀ a, draws cmp a (x :: xs) ≠ [] ↔ draws cmp a ys ≠ [] := fun a => by
        rw [← List.length_pos_iff, ← List.length_pos_iff, hdraws a]
      cases ys with
      | nil => exact absurd rfl ((hnonempty x).mp (draws_self_ne_nil x xs))
      | cons y ys =>
          have heq : cmp x y = .eq := heads_draw hxs hys
            ((hnonempty x).mp (draws_self_ne_nil x xs)) ((hnonempty y).mpr (draws_self_ne_nil y ys))
          refine .cons heq (ih (List.pairwise_cons.mp hxs).2 (List.pairwise_cons.mp hys).2 fun a => ?_)
          have ha := hdraws a
          have hsame : cmp a x = cmp a y := TransCmp.congr_right heq
          by_cases hax : cmp a x = .eq
          · rw [draws_cons_of_eq hax, draws_cons_of_eq (hsame ▸ hax)] at ha
            exact Nat.succ.inj ha
          · rwa [draws_cons_of_ne hax, draws_cons_of_ne (hsame ▸ hax)] at ha

end Ordered

/-! ## Keys of one column -/

namespace SortKey

/-- The text that a key shows. -/
def text? : SortKey → Option String
  | text s => some s
  | _ => none

/-- Numbers and available ratios are ordered by their numbers. -/
theorem order_of_number? {a b : SortKey} {x y : Binary64} (ha : a.number? = some x)
    (hb : b.number? = some y) : a.order b = x.totalCompare y := by
  rcases a with s | x' | ⟨_ | _, x'⟩ <;> rcases b with t | y' | ⟨_ | _, y'⟩ <;> cases ha <;>
    cases hb <;> rfl

/-- Texts are ordered by their texts. -/
theorem order_of_text? {a b : SortKey} {s t : String} (ha : a.text? = some s)
    (hb : b.text? = some t) : a.order b = compareText s t := by
  cases a with
  | number x => exact nomatch ha
  | ratio available x => exact nomatch ha
  | text s' =>
      cases b with
      | number y => exact nomatch hb
      | ratio available y => exact nomatch hb
      | text t' =>
          cases ha
          cases hb
          rfl

end SortKey

/-- The parts of a table that is sorted by a column. -/
inductive Block where
  | unavailable
  | numbers
  | texts
  | missing
  deriving DecidableEq

/-- The part that a key belongs to. -/
def Block.ofKey : Option SortKey → Block
  | some (.ratio false _) => .unavailable
  | some (.ratio true _) => .numbers
  | some (.number _) => .numbers
  | some (.text _) => .texts
  | none => .missing

/-- The parts of the rows that have the column, in the order of a direction. -/
def Block.present : SortDirection → List Block
  | .asc => [.unavailable, .numbers, .texts]
  | .desc => [.texts, .numbers, .unavailable]

/-- All parts, in the order of a direction. -/
def Block.inOrder (direction : SortDirection) : List Block := present direction ++ [.missing]

theorem Block.nodup_inOrder (direction : SortDirection) : (inOrder direction).Nodup := by
  cases direction <;> decide

theorem Block.mem_inOrder (direction : SortDirection) (block : Block) :
    block ∈ inOrder direction := by
  cases direction <;> cases block <;> decide

/-- The place of a key's part, ascending. -/
theorem Block.idxOf_asc (k : SortKey) : (inOrder .asc).idxOf (ofKey (some k)) = k.rank := by
  rcases k with s | x | ⟨_ | _, x⟩ <;> rfl

/-- The place of a key's part, descending. -/
theorem Block.idxOf_desc (k : SortKey) :
    (inOrder .desc).idxOf (ofKey (some k)) + k.rank = 2 := by
  rcases k with s | x | ⟨_ | _, x⟩ <;> rfl

/-- Rows without the column are in the last part. -/
theorem Block.idxOf_le (direction : SortDirection) (k : Option SortKey) :
    (inOrder direction).idxOf (ofKey k) ≤ (inOrder direction).idxOf .missing := by
  generalize ofKey k = block
  cases direction <;> cases block <;> decide

/-- **KEYS OF AN EARLIER PART** are smaller. -/
theorem Block.compareKeys_of_idxOf_lt {direction : SortDirection} {k l : Option SortKey}
    (h : (inOrder direction).idxOf (ofKey k) < (inOrder direction).idxOf (ofKey l)) :
    Sorter.compareKeys direction k l = .lt := by
  cases k with
  | none => exact absurd (idxOf_le direction l) (Nat.not_le.mpr h)
  | some k =>
      cases l with
      | none => rfl
      | some l =>
          cases direction with
          | asc =>
              rw [idxOf_asc, idxOf_asc] at h
              show (compare k.rank l.rank).then _ = .lt
              rw [Nat.compare_eq_lt.mpr h]
              rfl
          | desc =>
              have hk := idxOf_desc k
              have hl := idxOf_desc l
              have hrank : l.rank < k.rank := by omega
              show ((compare k.rank l.rank).then _).swap = .lt
              rw [Nat.compare_eq_gt.mpr hrank]
              rfl

theorem Block.pairwise_inOrder (direction : SortDirection) :
    (inOrder direction).Pairwise fun b c =>
      (inOrder direction).idxOf b < (inOrder direction).idxOf c := by
  cases direction <;> decide

/-! ## Rows -/

section Rows

variable {ρ : Type} [TableRow ρ]

/-- The part of a sorted table that a row belongs to. -/
def blockOf (column : String) (row : ρ) : Block := .ofKey (TableRow.key? row column)

/-- The number that a row shows in a column. -/
def numberIn? (column : String) (row : ρ) : Option Binary64 :=
  (TableRow.key? row column).bind SortKey.number?

/-- The text that a row shows in a column. -/
def textIn? (column : String) (row : ρ) : Option String :=
  (TableRow.key? row column).bind SortKey.text?

theorem compareRows_single (s : Sorter) (a b : ρ) :
    compareRows [s] a b
      = Sorter.compareKeys s.direction (TableRow.key? a s.column) (TableRow.key? b s.column) := by
  rw [compareRows, compareRows, Ordering.then_eq]

/-- Choosing rows and sorting them can be done in either order. -/
theorem filter_sortRows (sorters : List Sorter) (p : ρ → Bool) (rows : List ρ) :
    (sortRows sorters rows).filter p = sortRows sorters (rows.filter p) := by
  have hsorted := stablySorted_sortRows sorters rows
  have hcomm : ∀ (row : ρ) (xs : List ρ), draws (compareRows sorters) row (xs.filter p)
      = (draws (compareRows sorters) row xs).filter p :=
    fun row xs => List.filter_comm ..
  have hchosen : StablySorted sorters (rows.filter p) ((sortRows sorters rows).filter p) := by
    refine ⟨hsorted.perm.filter p, hsorted.ordered.filter p, fun row => ?_⟩
    rw [hcomm, hcomm, hsorted.ties]
  exact hchosen.unique (stablySorted_sortRows sorters (rows.filter p))

/-- Rows that all draw stay as they are. -/
theorem sortRows_of_draws {sorters : List Sorter} {rows : List ρ}
    (h : ∀ a ∈ rows, ∀ b ∈ rows, compareRows sorters a b = .eq) : sortRows sorters rows = rows := by
  refine sortRows_of_ordered (List.pairwise_of_forall_mem_list fun a ha b hb => ?_)
  rw [h a ha b hb]
  rfl

/-- **A TABLE SORTED BY A COLUMN** is its parts, each sorted by itself. -/
theorem sortRows_eq_blocks (column : String) (direction : SortDirection) (rows : List ρ) :
    sortRows [⟨column, direction⟩] rows
      = (Block.inOrder direction).flatMap fun block =>
          sortRows [⟨column, direction⟩] (rows.filter fun row => blockOf column row = block) := by
  have hlt : (Block.inOrder direction).Pairwise fun b c => ∀ x y : ρ, blockOf column x = b →
      blockOf column y = c → compareRows [⟨column, direction⟩] x y = .lt := by
    refine (Block.pairwise_inOrder direction).imp ?_
    rintro _ _ h x y rfl rfl
    rw [compareRows_single]
    exact Block.compareKeys_of_idxOf_lt h
  have hblocks := eq_flatMap_filter (Block.nodup_inOrder direction) hlt
    (stablySorted_sortRows [⟨column, direction⟩] rows).ordered
    fun row _ => Block.mem_inOrder direction (blockOf column row)
  simp only [filter_sortRows] at hblocks
  exact hblocks

/-! ## Parts -/

variable {column : String} {row : ρ}

theorem blockOf_eq_unavailable_iff :
    blockOf column row = .unavailable ↔ ∃ x, TableRow.key? row column = some (.ratio false x) := by
  rw [blockOf]
  rcases TableRow.key? row column with _ | s | x | ⟨_ | _, x⟩ <;> simp [Block.ofKey]

theorem blockOf_eq_numbers_iff :
    blockOf column row = .numbers ↔ ∃ x, numberIn? column row = some x := by
  rw [blockOf, numberIn?]
  rcases TableRow.key? row column with _ | s | x | ⟨_ | _, x⟩ <;>
    simp [Block.ofKey, SortKey.number?]

theorem blockOf_eq_texts_iff : blockOf column row = .texts ↔ ∃ s, textIn? column row = some s := by
  rw [blockOf, textIn?]
  rcases TableRow.key? row column with _ | s | x | ⟨_ | _, x⟩ <;>
    simp [Block.ofKey, SortKey.text?]

theorem blockOf_eq_missing_iff : blockOf column row = .missing ↔ TableRow.key? row column = none := by
  rw [blockOf]
  rcases TableRow.key? row column with _ | s | x | ⟨_ | _, x⟩ <;> simp [Block.ofKey]

/-- A row that is not in the last part has a key. -/
theorem exists_key_of_ne_missing (h : blockOf column row ≠ .missing) :
    ∃ k, TableRow.key? row column = some k :=
  Option.ne_none_iff_exists'.mp fun hnone => h (blockOf_eq_missing_iff.mpr hnone)

theorem compareRows_of_unavailable {direction : SortDirection} {a b : ρ}
    (ha : blockOf column a = .unavailable) (hb : blockOf column b = .unavailable) :
    compareRows [⟨column, direction⟩] a b = .eq := by
  obtain ⟨x, ha⟩ := blockOf_eq_unavailable_iff.mp ha
  obtain ⟨y, hb⟩ := blockOf_eq_unavailable_iff.mp hb
  rw [compareRows_single, ha, hb]
  cases direction <;> rfl

theorem compareRows_of_missing {direction : SortDirection} {a b : ρ}
    (ha : blockOf column a = .missing) (hb : blockOf column b = .missing) :
    compareRows [⟨column, direction⟩] a b = .eq := by
  rw [compareRows_single, blockOf_eq_missing_iff.mp ha, blockOf_eq_missing_iff.mp hb]
  rfl

theorem compareRows_of_numberIn? {a b : ρ} {x y : Binary64} (ha : numberIn? column a = some x)
    (hb : numberIn? column b = some y) :
    compareRows [⟨column, .asc⟩] a b = x.totalCompare y := by
  obtain ⟨k, hk, hx⟩ := Option.bind_eq_some_iff.mp ha
  obtain ⟨l, hl, hy⟩ := Option.bind_eq_some_iff.mp hb
  rw [compareRows_single, hk, hl]
  exact SortKey.order_of_number? hx hy

theorem compareRows_of_textIn? {a b : ρ} {s t : String} (ha : textIn? column a = some s)
    (hb : textIn? column b = some t) :
    compareRows [⟨column, .asc⟩] a b = SortKey.compareText s t := by
  obtain ⟨k, hk, hs⟩ := Option.bind_eq_some_iff.mp ha
  obtain ⟨l, hl, ht⟩ := Option.bind_eq_some_iff.mp hb
  rw [compareRows_single, hk, hl]
  exact SortKey.order_of_text? hs ht

/-- Among rows that have the column, descending is ascending from the other side. -/
theorem compareRows_desc {a b : ρ} (ha : blockOf column a ≠ .missing)
    (hb : blockOf column b ≠ .missing) :
    compareRows [⟨column, .desc⟩] b a = compareRows [⟨column, .asc⟩] a b := by
  obtain ⟨k, hk⟩ := exists_key_of_ne_missing ha
  obtain ⟨l, hl⟩ := exists_key_of_ne_missing hb
  rw [compareRows_single, compareRows_single, hk, hl]
  have hswap : k.order l = (l.order k).swap := OrientedCmp.eq_swap
  exact hswap.symm

/-- A part of a table, sorted by a column. -/
def sortedPart (column : String) (direction : SortDirection) (rows : List ρ) (block : Block) :
    List ρ :=
  sortRows [⟨column, direction⟩] (rows.filter fun row => blockOf column row = block)

variable {direction : SortDirection} {rows : List ρ} {block : Block}

theorem blockOf_of_mem_filter (h : row ∈ rows.filter fun row => blockOf column row = block) :
    blockOf column row = block :=
  of_decide_eq_true (List.mem_filter.mp h).2

theorem sortedPart_perm : (sortedPart column direction rows block).Perm
    (rows.filter fun row => blockOf column row = block) :=
  (stablySorted_sortRows _ _).perm

theorem blockOf_of_mem_sortedPart (h : row ∈ sortedPart column direction rows block) :
    blockOf column row = block :=
  blockOf_of_mem_filter (sortedPart_perm.mem_iff.mp h)

/-- Ratios that are not available stay as they are. -/
theorem sortedPart_unavailable : sortedPart column direction rows .unavailable
    = rows.filter fun row => blockOf column row = .unavailable :=
  sortRows_of_draws fun _ ha _ hb =>
    compareRows_of_unavailable (blockOf_of_mem_filter ha) (blockOf_of_mem_filter hb)

/-- Rows without the column stay as they are. -/
theorem sortedPart_missing : sortedPart column direction rows .missing
    = rows.filter fun row => blockOf column row = .missing :=
  sortRows_of_draws fun _ ha _ hb =>
    compareRows_of_missing (blockOf_of_mem_filter ha) (blockOf_of_mem_filter hb)

/-- Rows of one part that show the same stay as they are. -/
theorem filter_sortedPart {p : ρ → Bool} (hblock : ∀ row, p row = true → blockOf column row = block)
    (hdraw : ∀ a b, p a = true → p b = true → compareRows [⟨column, direction⟩] a b = .eq) :
    (sortedPart column direction rows block).filter p = rows.filter p := by
  have hchosen : (rows.filter fun row => blockOf column row = block).filter p = rows.filter p := by
    rw [List.filter_filter]
    refine List.filter_congr fun row _ => ?_
    cases hp : p row with
    | false => rfl
    | true => simp [hblock row hp]
  rw [sortedPart, filter_sortRows, hchosen]
  exact sortRows_of_draws fun a ha b hb => hdraw a b (List.mem_filter.mp ha).2 (List.mem_filter.mp hb).2

theorem pairwise_sortedPart :
    (sortedPart column direction rows block).Pairwise
      fun a b => (compareRows [⟨column, direction⟩] a b).isLE = true :=
  (stablySorted_sortRows _ _).ordered

/-- The numbers ascend in their total order. -/
theorem pairwise_numbers (column : String) (rows : List ρ) :
    (sortedPart column .asc rows .numbers).Pairwise fun a b => ∃ x y,
      numberIn? column a = some x ∧ numberIn? column b = some y
        ∧ (x.totalCompare y).isLE = true := by
  refine pairwise_sortedPart.imp_of_mem fun ha hb hle => ?_
  obtain ⟨x, hx⟩ := blockOf_eq_numbers_iff.mp (blockOf_of_mem_sortedPart ha)
  obtain ⟨y, hy⟩ := blockOf_eq_numbers_iff.mp (blockOf_of_mem_sortedPart hb)
  exact ⟨x, y, hx, hy, compareRows_of_numberIn? hx hy ▸ hle⟩

/-- The texts ascend in lower case and then as they are. -/
theorem pairwise_texts (column : String) (rows : List ρ) :
    (sortedPart column .asc rows .texts).Pairwise fun a b => ∃ s t,
      textIn? column a = some s ∧ textIn? column b = some t
        ∧ (SortKey.compareText s t).isLE = true := by
  refine pairwise_sortedPart.imp_of_mem fun ha hb hle => ?_
  obtain ⟨s, hs⟩ := blockOf_eq_texts_iff.mp (blockOf_of_mem_sortedPart ha)
  obtain ⟨t, ht⟩ := blockOf_eq_texts_iff.mp (blockOf_of_mem_sortedPart hb)
  exact ⟨s, t, hs, ht, compareRows_of_textIn? hs ht ▸ hle⟩

/-- Rows that show the same number keep their order. -/
theorem filter_numbers (column : String) (rows : List ρ) (x : Binary64) :
    ((sortedPart column .asc rows .numbers).filter fun row => numberIn? column row = some x)
      = rows.filter fun row => numberIn? column row = some x := by
  have hself : compare x.rank x.rank = .eq := ReflCmp.compare_self
  refine filter_sortedPart (fun row hrow => ?_) fun a b ha hb => ?_
  · exact blockOf_eq_numbers_iff.mpr ⟨x, of_decide_eq_true hrow⟩
  · exact (compareRows_of_numberIn? (of_decide_eq_true ha) (of_decide_eq_true hb)).trans hself

/-- Rows that show the same text keep their order. -/
theorem filter_texts (column : String) (rows : List ρ) (s : String) :
    ((sortedPart column .asc rows .texts).filter fun row => textIn? column row = some s)
      = rows.filter fun row => textIn? column row = some s := by
  have hself : (SortKey.text s).order (.text s) = .eq := ReflCmp.compare_self
  refine filter_sortedPart (fun row hrow => ?_) fun a b ha hb => ?_
  · exact blockOf_eq_texts_iff.mpr ⟨s, of_decide_eq_true hrow⟩
  · exact (compareRows_of_textIn? (of_decide_eq_true ha) (of_decide_eq_true hb)).trans hself

/-- Two rows have the column, and their keys draw. -/
def KeysDraw (column : String) (a b : ρ) : Prop :=
  ∃ k l, TableRow.key? a column = some k ∧ TableRow.key? b column = some l ∧ k.order l = .eq

/-- The rows that have the column, as a direction sorts them. -/
def sortedPresent (column : String) (direction : SortDirection) (rows : List ρ) : List ρ :=
  (Block.present direction).flatMap (sortedPart column direction rows)

theorem sortedPresent_asc (column : String) (rows : List ρ) :
    sortedPresent column .asc rows
      = rows.filter (fun row => blockOf column row = .unavailable)
        ++ sortedPart column .asc rows .numbers ++ sortedPart column .asc rows .texts := by
  rw [sortedPresent, Block.present, List.flatMap_cons, List.flatMap_cons, List.flatMap_singleton,
    sortedPart_unavailable, List.append_assoc]

theorem sortedPresent_desc (column : String) (rows : List ρ) :
    sortedPresent column .desc rows
      = sortedPart column .desc rows .texts ++ sortedPart column .desc rows .numbers
        ++ rows.filter fun row => blockOf column row = .unavailable := by
  rw [sortedPresent, Block.present, List.flatMap_cons, List.flatMap_cons, List.flatMap_singleton,
    sortedPart_unavailable, List.append_assoc]

/-- **ROWS WITHOUT THE COLUMN** come last and as they are, in either direction. -/
theorem sortRows_eq_append (column : String) (direction : SortDirection) (rows : List ρ) :
    sortRows [⟨column, direction⟩] rows = sortedPresent column direction rows
      ++ rows.filter fun row => blockOf column row = .missing := by
  have hblocks : sortRows [⟨column, direction⟩] rows
      = (Block.inOrder direction).flatMap (sortedPart column direction rows) :=
    sortRows_eq_blocks column direction rows
  rw [hblocks, Block.inOrder, List.flatMap_append, List.flatMap_singleton, sortedPart_missing,
    sortedPresent]

theorem blockOf_ne_missing (h : row ∈ sortedPresent column direction rows) :
    blockOf column row ≠ .missing := by
  have hpresent : Block.missing ∉ Block.present direction := by cases direction <;> decide
  obtain ⟨block, hblock, hrow⟩ := List.mem_flatMap.mp h
  rw [blockOf_of_mem_sortedPart hrow]
  exact fun hmissing => hpresent (hmissing ▸ hblock)

theorem pairwise_sortedPresent :
    (sortedPresent column direction rows).Pairwise
      fun a b => (compareRows [⟨column, direction⟩] a b).isLE = true := by
  have hordered := (stablySorted_sortRows [⟨column, direction⟩] rows).ordered
  rw [sortRows_eq_append] at hordered
  exact (List.pairwise_append.mp hordered).1

theorem sortedPresent_perm (column : String) (rows : List ρ) :
    (sortedPresent column .desc rows).Perm (sortedPresent column .asc rows) := by
  have hperm : (sortRows [⟨column, .desc⟩] rows).Perm (sortRows [⟨column, .asc⟩] rows) :=
    (stablySorted_sortRows _ rows).perm.trans (stablySorted_sortRows _ rows).perm.symm
  rw [sortRows_eq_append, sortRows_eq_append] at hperm
  exact (List.perm_append_right_iff _).mp hperm

/-- **DESCENDING** is ascending from the other end, place by place up to rows whose keys
    draw. -/
theorem keysDraw_sortedPresent (column : String) (rows : List ρ) :
    List.Forall₂ (KeysDraw column) (sortedPresent column .desc rows)
      (sortedPresent column .asc rows).reverse := by
  have hreverse : (sortedPresent column .asc rows).reverse.Pairwise
      fun a b => (compareRows [⟨column, .desc⟩] a b).isLE = true := by
    rw [List.pairwise_reverse]
    refine pairwise_sortedPresent.imp_of_mem fun ha hb hle => ?_
    rwa [compareRows_desc (blockOf_ne_missing ha) (blockOf_ne_missing hb)]
  have hdraw : List.Forall₂ (fun a b => compareRows [⟨column, .desc⟩] a b = .eq)
      (sortedPresent column .desc rows) (sortedPresent column .asc rows).reverse := by
    refine forall₂_of_ordered pairwise_sortedPresent hreverse fun row => ?_
    have hperm := (sortedPresent_perm column rows).trans (List.reverse_perm _).symm
    exact (hperm.filter _).length_eq
  rw [List.forall₂_iff_zip] at hdraw ⊢
  refine ⟨hdraw.1, fun {a b} hab => ?_⟩
  -- both rows have the column, so they draw by their keys
  obtain ⟨ha, hb⟩ := List.of_mem_zip hab
  have hbmissing := blockOf_ne_missing (List.mem_reverse.mp hb)
  obtain ⟨k, hk⟩ := exists_key_of_ne_missing (blockOf_ne_missing ha)
  obtain ⟨l, hl⟩ := exists_key_of_ne_missing hbmissing
  refine ⟨k, l, hk, hl, ?_⟩
  have heq := hdraw.2 hab
  rw [compareRows_desc hbmissing (blockOf_ne_missing ha), compareRows_single, hk, hl] at heq
  exact OrientedCmp.eq_symm heq

/-- **THE SHAPE OF A COLUMN**, for every table.  Ascending, the rows whose ratio is not
    available come first, as they stand, then the numbers and available ratios in the total
    order of numbers, then the texts in lower case and then as they are, and then the rows
    without the column, as they stand; rows that show the same number or text keep their
    order.  Descending, the rows without the column are the same last ones, and the others
    are those of the ascending table from the other end, place by place up to keys that draw:
    texts first, then numbers, then what is not available.  So a ratio that is not available
    is never among the available ones, in either direction. -/
theorem column_sort_shape (column : String) (rows : List ρ) :
    let ascending := sortRows [⟨column, .asc⟩] rows
    let descending := sortRows [⟨column, .desc⟩] rows
    let unavailable := rows.filter fun row => blockOf column row = .unavailable
    let missing := rows.filter fun row => blockOf column row = .missing
    ∃ numbers texts numbers' texts' : List ρ,
      ascending = (unavailable ++ numbers ++ texts) ++ missing
        ∧ (numbers.Perm (rows.filter fun row => blockOf column row = .numbers)
          ∧ numbers.Pairwise (fun a b => ∃ x y, numberIn? column a = some x
            ∧ numberIn? column b = some y ∧ (x.totalCompare y).isLE = true)
          ∧ ∀ x, (numbers.filter fun row => numberIn? column row = some x)
            = rows.filter fun row => numberIn? column row = some x)
        ∧ (texts.Perm (rows.filter fun row => blockOf column row = .texts)
          ∧ texts.Pairwise (fun a b => ∃ s t, textIn? column a = some s
            ∧ textIn? column b = some t ∧ (SortKey.compareText s t).isLE = true)
          ∧ ∀ s, (texts.filter fun row => textIn? column row = some s)
            = rows.filter fun row => textIn? column row = some s)
        ∧ descending = (texts' ++ numbers' ++ unavailable) ++ missing
        ∧ (numbers'.Perm numbers ∧ texts'.Perm texts)
        ∧ List.Forall₂ (KeysDraw column) (texts' ++ numbers' ++ unavailable)
          (unavailable ++ numbers ++ texts).reverse := by
  intro ascending descending unavailable missing
  have hasc := sortRows_eq_append column .asc rows
  have hdesc := sortRows_eq_append column .desc rows
  have hdraw := keysDraw_sortedPresent column rows
  rw [sortedPresent_asc] at hasc hdraw
  rw [sortedPresent_desc] at hdesc hdraw
  exact ⟨sortedPart column .asc rows .numbers, sortedPart column .asc rows .texts,
    sortedPart column .desc rows .numbers, sortedPart column .desc rows .texts, hasc,
    ⟨sortedPart_perm, pairwise_numbers column rows, filter_numbers column rows⟩,
    ⟨sortedPart_perm, pairwise_texts column rows, filter_texts column rows⟩, hdesc,
    ⟨sortedPart_perm.trans sortedPart_perm.symm, sortedPart_perm.trans sortedPart_perm.symm⟩, hdraw⟩

end Rows

end FindingsBrowser
