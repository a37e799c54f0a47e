import FindingsBrowser.Binary64.Basic
import FindingsBrowser.Text.LowerCase

/-! # Sort keys — the total order on the cells of a column

    Unavailable ratios come first, then numbers and available ratios by value,
    then texts. Texts are compared in lower case, and as they are where that
    draws. -/

namespace FindingsBrowser

/-- What a row shows in a column, as far as sorting is concerned. -/
inductive SortKey where
  | text (s : String)
  | number (x : Binary64)
  /-- A ratio that may not be available. -/
  | ratio (available : Bool) (x : Binary64)
  deriving DecidableEq

namespace SortKey

/-- The group a key is sorted into. -/
def rank : SortKey → Nat
  | ratio false _ => 0
  | number _ => 1
  | ratio true _ => 1
  | text _ => 2

/-- The number a key stands for. -/
def number? : SortKey → Option Binary64
  | number x => some x
  | ratio true x => some x
  | _ => none

/-- The order of two texts. -/
def compareText (a b : String) : Ordering :=
  (compare (Text.lowerCase a.toList) (Text.lowerCase b.toList)).then (compare a b)

/-- The order of two keys of the same group. -/
def compareWithin : SortKey → SortKey → Ordering
  | text a, text b => compareText a b
  | a, b =>
      match a.number?, b.number? with
      | some x, some y => x.totalCompare y
      | _, _ => .eq

/-- The order of two keys. -/
def order (a b : SortKey) : Ordering :=
  (compare a.rank b.rank).then (a.compareWithin b)

end SortKey

end FindingsBrowser
