import FindingsBrowser.Row.Basic

/-! # The order of rows — a total preorder with one stable arrangement

    Keys are ordered by group, then by number, then by text, and each of the three is
    a total order of its own; rows are ordered by the first sorter that tells them
    apart.  Every step of that construction keeps the laws of a total preorder
    (`Std.TransCmp`), whatever the keys hold: NaN, infinities, `-0`, missing columns,
    keys of different kinds in one column.

    A total preorder leaves no choice to a stable sort: there is exactly one list that
    has the rows in order, and rows that draw in the order they were given
    (`StablySorted`). -/

namespace FindingsBrowser

open Std

/-- A comparison of values by what a function makes of them keeps the laws of a total
    preorder. -/
theorem transCmp_on {α β : Type} (cmp : β → β → Ordering) [TransCmp cmp] (f : α → β) :
    TransCmp fun a b => cmp (f a) (f b) where
  eq_swap := OrientedCmp.eq_swap
  isLE_trans := TransCmp.isLE_trans

/-! ## Keys -/

namespace SortKey

/-- The place of a key among the numbers; a key that is no number has that of `0`. -/
def numberRank (k : SortKey) : Int := (k.number?.getD .zero).rank

/-- The text of a key; a key that is no text has the empty one. -/
def content : SortKey → String
  | text s => s
  | _ => ""

/-- Keys of one group are ordered by number, then by text in lower case, then by text:
    only one of number and text can tell them apart. -/
theorem compareWithin_eq {a b : SortKey} (h : a.rank = b.rank) :
    a.compareWithin b
      = (compare a.numberRank b.numberRank).then (compareText a.content b.content) := by
  have hself : compareText "" "" = .eq := by decide
  rcases a with s | x | ⟨_ | _, x⟩ <;> rcases b with t | y | ⟨_ | _, y⟩ <;>
    simp_all [rank, compareWithin, numberRank, number?, content, Binary64.totalCompare]

/-- **KEYS** are ordered by group, then by number, then by text in lower case, then by
    text. -/
theorem order_eq_compareLex :
    order = compareLex (compareOn rank) (compareLex (compareOn numberRank)
      (compareLex (compareOn fun k => Text.lowerCase k.content.toList) (compareOn content))) := by
  funext a b
  show (compare a.rank b.rank).then _ = (compare a.rank b.rank).then _
  cases hrank : compare a.rank b.rank with
  | lt => rfl
  | gt => rfl
  | eq => exact compareWithin_eq (Nat.compare_eq_eq.mp hrank)

/-- The order of keys is a total preorder. -/
instance transCmp_order : TransCmp order := by
  rw [order_eq_compareLex]
  infer_instance

end SortKey

namespace Sorter

/-- A column's order is a total preorder, in either direction: rows without the column
    come last among themselves. -/
instance transCmp_compareKeys (direction : SortDirection) :
    TransCmp (compareKeys direction) where
  eq_swap := by
    rintro (_ | a) (_ | b)
    · rfl
    · rfl
    · rfl
    · have hswap : a.order b = (b.order a).swap := OrientedCmp.eq_swap
      cases direction with
      | asc => exact hswap
      | desc => exact congrArg Ordering.swap hswap
  isLE_trans := by
    rintro (_ | a) (_ | b) (_ | c) hab hbc
    · rfl
    · exact hbc
    · rfl
    · exact hab
    · exact hab
    · exact absurd hbc Bool.false_ne_true
    · rfl
    · have htrans : ∀ a b c : SortKey, (a.order b).isLE = true → (b.order c).isLE = true →
          (a.order c).isLE = true := fun a b c => TransCmp.isLE_trans
      cases direction with
      | asc => exact htrans a b c hab hbc
      | desc =>
          -- the order of keys, read from the other side
          have hswap : ∀ a b : SortKey, (a.order b).swap = b.order a :=
            fun a b => OrientedCmp.eq_swap.symm
          simp only [Sorter.compareKeys, hswap] at hab hbc ⊢
          exact htrans c b a hbc hab

end Sorter

/-! ## Rows -/

section Rows

variable {ρ : Type} [TableRow ρ]

/-- The order of rows is a total preorder, by however many sorters. -/
instance transCmp_compareRows (sorters : List Sorter) :
    TransCmp (compareRows (ρ := ρ) sorters) := by
  induction sorters with
  | nil => exact { eq_swap := rfl, isLE_trans := fun _ _ => rfl }
  | cons s rest ih =>
      have hfirst : TransCmp fun a b : ρ =>
          Sorter.compareKeys s.direction (TableRow.key? a s.column) (TableRow.key? b s.column) :=
        transCmp_on (Sorter.compareKeys s.direction) fun a => TableRow.key? a s.column
      exact inferInstanceAs (TransCmp (compareLex _ (compareRows rest)))

end Rows

/-! ## The one stable arrangement -/

/-- The members of a list that draw with a value. -/
def draws {α : Type} (cmp : α → α → Ordering) (a : α) (xs : List α) : List α :=
  xs.filter fun b => cmp a b == .eq

section Draws

variable {α : Type} {cmp : α → α → Ordering}

theorem mem_draws {a b : α} {xs : List α} :
    b ∈ draws cmp a xs ↔ b ∈ xs ∧ cmp a b = .eq := by
  rw [draws, List.mem_filter, beq_iff_eq]

theorem draws_cons_of_eq {a b : α} (h : cmp a b = .eq) (xs : List α) :
    draws cmp a (b :: xs) = b :: draws cmp a xs :=
  List.filter_cons_of_pos (by rw [h]; rfl)

theorem draws_cons_of_ne {a b : α} (h : cmp a b ≠ .eq) (xs : List α) :
    draws cmp a (b :: xs) = draws cmp a xs :=
  List.filter_cons_of_neg (by rwa [beq_iff_eq])

variable [TransCmp cmp]

/-- A member draws with itself. -/
theorem draws_self_ne_nil (x : α) (xs : List α) : draws cmp x (x :: xs) ≠ [] := by
  have hself : cmp x x = .eq := ReflCmp.compare_self
  rw [draws_cons_of_eq hself]
  exact List.cons_ne_nil _ _

/-- Lists that agree draw by draw have the same members. -/
theorem mem_of_draws_eq {xs ys : List α} (h : ∀ a, draws cmp a xs = draws cmp a ys) {a : α}
    (ha : a ∈ xs) : a ∈ ys := by
  have hdraw : a ∈ draws cmp a xs := mem_draws.mpr ⟨ha, ReflCmp.compare_self⟩
  rw [h a] at hdraw
  exact (mem_draws.mp hdraw).1

/-- The head of a list in order is smaller than none of its members. -/
theorem head_isLE {x : α} {xs : List α}
    (h : (x :: xs).Pairwise fun a b => (cmp a b).isLE = true) {a : α} (ha : a ∈ x :: xs) :
    (cmp x a).isLE = true := by
  rcases List.mem_cons.mp ha with rfl | ha
  · have hself : cmp a a = .eq := ReflCmp.compare_self
    rw [hself]
    rfl
  · exact (List.pairwise_cons.mp h).1 a ha

/-- The heads of two lists in order draw if each of them draws with a member of the other
    list. -/
theorem heads_draw {x y : α} {xs ys : List α}
    (hxs : (x :: xs).Pairwise fun a b => (cmp a b).isLE = true)
    (hys : (y :: ys).Pairwise fun a b => (cmp a b).isLE = true)
    (hx : draws cmp x (y :: ys) ≠ []) (hy : draws cmp y (x :: xs) ≠ []) : cmp x y = .eq := by
  obtain ⟨b, hb⟩ := List.exists_mem_of_ne_nil _ hx
  obtain ⟨a, ha⟩ := List.exists_mem_of_ne_nil _ hy
  obtain ⟨hbmem, hxb⟩ := mem_draws.mp hb
  obtain ⟨hamem, hya⟩ := mem_draws.mp ha
  have hge : (cmp y x).isLE = true := TransCmp.congr_right hxb ▸ head_isLE hys hbmem
  have hle : (cmp x y).isLE = true := TransCmp.congr_right hya ▸ head_isLE hxs hamem
  exact OrientedCmp.isLE_antisymm hle hge

/-- **ONE ARRANGEMENT**: two lists in order are the same if they agree draw by draw. -/
theorem eq_of_ordered_of_draws : ∀ {xs ys : List α},
    xs.Pairwise (fun a b => (cmp a b).isLE = true) →
    ys.Pairwise (fun a b => (cmp a b).isLE = true) →
    (∀ a, draws cmp a xs = draws cmp a ys) → xs = ys := by
  intro xs
  induction xs with
  | nil =>
      intro ys _ _ hdraws
      cases ys with
      | nil => rfl
      | cons y ys =>
          have hy := mem_of_draws_eq (fun a => (hdraws a).symm) (List.mem_cons_self (a := y))
          exact absurd hy List.not_mem_nil
  | cons x xs ih =>
      intro ys hxs hys hdraws
      cases ys with
      | nil => exact absurd (mem_of_draws_eq hdraws List.mem_cons_self) List.not_mem_nil
      | cons y ys =>
          have heq : cmp x y = .eq := by
            refine heads_draw hxs hys ?_ ?_
            · rw [← hdraws x]
              exact draws_self_ne_nil x xs
            · rw [hdraws y]
              exact draws_self_ne_nil y ys
          have hself : cmp x x = .eq := ReflCmp.compare_self
          have hx := hdraws x
          rw [draws_cons_of_eq hself, draws_cons_of_eq heq] at hx
          obtain ⟨rfl, -⟩ := List.cons.inj hx
          congr 1
          refine ih (List.pairwise_cons.mp hxs).2 (List.pairwise_cons.mp hys).2 fun a => ?_
          have ha := hdraws a
          by_cases hax : cmp a x = .eq
          · rw [draws_cons_of_eq hax, draws_cons_of_eq hax] at ha
            exact (List.cons.inj ha).2
          · rwa [draws_cons_of_ne hax, draws_cons_of_ne hax] at ha

end Draws

section Rows

variable {ρ : Type} [TableRow ρ]

/-- The rows `rows`, sorted: the same rows, none before a smaller one, and those that
    draw with any given row as they stand in `rows`. -/
structure StablySorted (sorters : List Sorter) (rows sorted : List ρ) : Prop where
  perm : sorted.Perm rows
  ordered : sorted.Pairwise fun a b => (compareRows sorters a b).isLE = true
  ties : ∀ row, draws (compareRows sorters) row sorted = draws (compareRows sorters) row rows

/-- A table has at most one stable arrangement. -/
theorem StablySorted.unique {sorters : List Sorter} {rows sorted sorted' : List ρ}
    (h : StablySorted sorters rows sorted) (h' : StablySorted sorters rows sorted') :
    sorted = sorted' :=
  eq_of_ordered_of_draws h.ordered h'.ordered fun row => (h.ties row).trans (h'.ties row).symm

/-- The test that sorting makes is the order of rows. -/
theorem sortRows_eq (sorters : List Sorter) (rows : List ρ) :
    sortRows sorters rows = rows.mergeSort fun a b => (compareRows sorters a b).isLE := by
  have htest : ∀ o : Ordering, (o != .gt) = o.isLE := by
    intro o
    cases o <;> rfl
  simp only [sortRows, htest]

/-- **SORTING** arranges the rows stably. -/
theorem stablySorted_sortRows (sorters : List Sorter) (rows : List ρ) :
    StablySorted sorters rows (sortRows sorters rows) := by
  have htrans : ∀ a b c : ρ, (compareRows sorters a b).isLE = true →
      (compareRows sorters b c).isLE = true → (compareRows sorters a c).isLE = true :=
    fun a b c => TransCmp.isLE_trans
  have htotal : ∀ a b : ρ,
      ((compareRows sorters a b).isLE || (compareRows sorters b a).isLE) = true := by
    intro a b
    have hswap : compareRows sorters b a = (compareRows sorters a b).swap := OrientedCmp.eq_swap
    rw [hswap]
    cases compareRows sorters a b <;> rfl
  rw [sortRows_eq]
  have hperm := List.mergeSort_perm rows fun a b => (compareRows sorters a b).isLE
  refine ⟨hperm, List.pairwise_mergeSort htrans htotal rows, fun row => ?_⟩
  -- the draws of a row are in order as they stand, so sorting keeps them as they stand
  have hordered : (draws (compareRows sorters) row rows).Pairwise
      fun a b => (compareRows sorters a b).isLE = true := by
    refine List.pairwise_of_forall_mem_list fun a ha b hb => ?_
    rw [← TransCmp.congr_left (mem_draws.mp ha).2, (mem_draws.mp hb).2]
    rfl
  have hkept := (List.sublist_mergeSort htrans htotal hordered List.filter_sublist).filter
    fun r => compareRows sorters row r == .eq
  have htwice : (draws (compareRows sorters) row rows).filter
      (fun r => compareRows sorters row r == .eq) = draws (compareRows sorters) row rows := by
    rw [draws, List.filter_filter]
    simp only [Bool.and_self]
  rw [htwice] at hkept
  exact (hkept.eq_of_length (hperm.filter _).length_eq.symm).symm

/-- Rows in order stay as they are. -/
theorem sortRows_of_ordered {sorters : List Sorter} {rows : List ρ}
    (h : rows.Pairwise fun a b => (compareRows sorters a b).isLE = true) :
    sortRows sorters rows = rows := by
  have hstay : StablySorted sorters rows rows := ⟨List.Perm.refl rows, h, fun _ => rfl⟩
  exact (stablySorted_sortRows sorters rows).unique hstay

/-- **THE ORDER OF ROWS IS A TOTAL PREORDER**, whatever keys the rows have and however
    many sorters there are: seen from the other row it is reversed, every row draws with
    itself, no row is larger than one that follows it, and rows that draw stand alike to
    every other.  So a table has exactly one stable arrangement, the one that sorting
    gives. -/
theorem compareRows_totalPreorder (sorters : List Sorter) :
    (∀ a b : ρ, compareRows sorters b a = (compareRows sorters a b).swap)
      ∧ (∀ a : ρ, compareRows sorters a a = .eq)
      ∧ (∀ a b c : ρ, (compareRows sorters a b).isLE = true →
          (compareRows sorters b c).isLE = true → (compareRows sorters a c).isLE = true)
      ∧ (∀ a b c : ρ, compareRows sorters a b = .eq →
          compareRows sorters a c = compareRows sorters b c
            ∧ compareRows sorters c a = compareRows sorters c b)
      ∧ ∀ rows sorted : List ρ,
          StablySorted sorters rows sorted ↔ sorted = sortRows sorters rows := by
  refine ⟨fun a b => OrientedCmp.eq_swap, fun a => ReflCmp.compare_self,
    fun a b c => TransCmp.isLE_trans, fun a b c hab => ?_, fun rows sorted => ?_⟩
  · exact ⟨TransCmp.congr_left hab, TransCmp.congr_right hab⟩
  · constructor
    · intro h
      exact h.unique (stablySorted_sortRows sorters rows)
    · rintro rfl
      exact stablySorted_sortRows sorters rows

end Rows

/-- A column with a qualifier that is not available, a NaN with its sign set, a number
    and an available ratio of the same value, and a text. -/
theorem compareRows_totalPreorder_mixed :
    let row (cell : Cell) : Row := ⟨"r", .ofList [("x", cell)]⟩
    let absent := row (.qualifier .notAvailable)
    let nan := row (.number Binary64.nan.neg)
    let number := row (.number .zero)
    let ratio := row (.qualifier ⟨true, .zero, .zero, .zero⟩)
    let text := row (.text "a")
    let sorters : List Sorter := [⟨"x", .asc⟩, ⟨"y", .desc⟩]
    ((compareRows sorters absent nan).isLE = true ∧ (compareRows sorters nan text).isLE = true
        ∧ (compareRows sorters absent text).isLE = true)
      ∧ compareRows sorters number ratio = .eq
      ∧ compareRows sorters number text = compareRows sorters ratio text
      ∧ compareRows sorters nan number = compareRows sorters nan ratio := by
  intro row absent nan number ratio text sorters
  obtain ⟨-, -, htrans, hdraw, -⟩ := compareRows_totalPreorder (ρ := Row) sorters
  have hfirst : (compareRows sorters absent nan).isLE = true := by decide
  have hsecond : (compareRows sorters nan text).isLE = true := by decide
  have heq : compareRows sorters number ratio = .eq := by decide
  exact ⟨⟨hfirst, hsecond, htrans absent nan text hfirst hsecond⟩, heq,
    (hdraw number ratio text heq).1, (hdraw number ratio nan heq).2⟩

end FindingsBrowser
