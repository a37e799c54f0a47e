import FindingsBrowser.Proofs.Table.Partition
import Mathlib.Data.List.Basic

/-! # Sorting again — two sorts are one by both specifications

    A stable sort moves rows only where its own order tells them apart, so between rows
    that draw the order of the sort before is still to be seen.  That is the order of the
    newer sorters followed by the older ones (`compareRows_append`), and there is only one
    stable arrangement by it.

    * `pairwise_then_of_draws` is the engine: a list in order, whose draws are in a second
      order, is in the order of both.
    * `sortRows_foldl` replays any number of sorts, one after another. -/

namespace FindingsBrowser

open Std

/-! ## Two orders, one behind the other -/

section Draws

variable {α : Type} {cmp cmp' : α → α → Ordering}

/-- Values draw under two orders if they draw under each of them. -/
theorem draws_then (a : α) (xs : List α) :
    draws (fun x y => (cmp x y).then (cmp' x y)) a xs = draws cmp a (draws cmp' a xs) := by
  rw [draws, draws, draws, List.filter_filter]
  refine List.filter_congr fun b _ => ?_
  cases cmp a b <;> rfl

/-- The draws under two orders do not depend on which of them is asked first. -/
theorem draws_comm (a : α) (xs : List α) :
    draws cmp a (draws cmp' a xs) = draws cmp' a (draws cmp a xs) :=
  List.filter_comm ..

variable [TransCmp cmp]

/-- **THE ENGINE**: a list in order whose draws are in a second order is in the order of
    the first and, where that draws, of the second. -/
theorem pairwise_then_of_draws {xs : List α}
    (hordered : xs.Pairwise fun a b => (cmp a b).isLE = true)
    (hdraws : ∀ a, (draws cmp a xs).Pairwise fun x y => (cmp' x y).isLE = true) :
    xs.Pairwise fun a b => ((cmp a b).then (cmp' a b)).isLE = true := by
  rw [List.pairwise_iff_forall_sublist] at hordered ⊢
  intro a b hab
  have hle : (cmp a b).isLE = true := hordered hab
  cases hcmp : cmp a b with
  | lt => rfl
  | gt =>
      rw [hcmp] at hle
      exact absurd hle Bool.false_ne_true
  | eq =>
      -- both are among the draws of the first, in the order in which they stand
      have hself : cmp a a = .eq := ReflCmp.compare_self
      have hkept : List.Sublist (draws cmp a [a, b]) (draws cmp a xs) := hab.filter _
      rw [draws_cons_of_eq hself, draws_cons_of_eq hcmp] at hkept
      exact List.pairwise_iff_forall_sublist.mp (hdraws a) hkept

end Draws

/-! ## Rows -/

section Rows

variable {ρ : Type} [TableRow ρ]

/-- Sorters behind others count where those draw. -/
theorem compareRows_append (first second : List Sorter) (a b : ρ) :
    compareRows (first ++ second) a b
      = (compareRows first a b).then (compareRows second a b) := by
  induction first with
  | nil => rfl
  | cons s rest ih => rw [List.cons_append, compareRows, compareRows, ih, Ordering.then_assoc]

/-- Two sorts arrange the rows stably by the newer sorters and then the older ones. -/
theorem stablySorted_resort (older newer : List Sorter) (rows : List ρ) :
    StablySorted (newer ++ older) rows (sortRows newer (sortRows older rows)) := by
  have hold := stablySorted_sortRows older rows
  have hnew := stablySorted_sortRows newer (sortRows older rows)
  have horder : compareRows (ρ := ρ) (newer ++ older)
      = fun a b => (compareRows newer a b).then (compareRows older a b) := by
    funext a b
    exact compareRows_append newer older a b
  refine ⟨hnew.perm.trans hold.perm, ?_, fun row => ?_⟩
  · rw [horder]
    refine pairwise_then_of_draws hnew.ordered fun row => ?_
    -- rows that draw stand as the older sort has left them
    rw [hnew.ties row]
    exact hold.ordered.filter _
  · rw [horder, draws_then, draws_then, draws_comm, hnew.ties, draws_comm, hold.ties, draws_comm]

theorem sortRows_sortRows (older newer : List Sorter) (rows : List ρ) :
    sortRows newer (sortRows older rows) = sortRows (newer ++ older) rows :=
  (stablySorted_resort older newer rows).unique (stablySorted_sortRows (newer ++ older) rows)

/-- Any number of sorts, one after another, is one sort by all their sorters, those of the
    last sort first. -/
theorem sortRows_foldl (sorts : List (List Sorter)) (rows : List ρ) :
    sorts.foldl (fun rows sorters => sortRows sorters rows) rows
      = sortRows sorts.reverse.flatten rows := by
  induction sorts generalizing rows with
  | nil => exact (sortRows_nil rows).symm
  | cons sorters rest ih =>
      rw [List.foldl_cons, ih, sortRows_sortRows, List.reverse_cons, List.flatten_append,
        List.flatten_singleton]

/-- **SORTING TWICE IS SORTING ONCE** by the newer sorters and then the older ones, for
    every table and all sorters, of which either list may be empty.  So sorting again by the
    same sorters changes nothing, and a table that has been sorted any number of times is
    sorted by all the sorters, the latest first. -/
theorem sorting_again_combines (rows : List ρ) :
    (∀ older newer : List Sorter,
        sortRows newer (sortRows older rows) = sortRows (newer ++ older) rows)
      ∧ (∀ sorters : List Sorter,
          sortRows sorters (sortRows sorters rows) = sortRows sorters rows)
      ∧ ∀ sorts : List (List Sorter),
          sorts.foldl (fun rows sorters => sortRows sorters rows) rows
            = sortRows sorts.reverse.flatten rows := by
  refine ⟨fun older newer => sortRows_sortRows older newer rows, fun sorters => ?_,
    fun sorts => sortRows_foldl sorts rows⟩
  exact sortRows_of_ordered (stablySorted_sortRows sorters rows).ordered

end Rows

end FindingsBrowser
