import FindingsBrowser.Table.Page

/-! # Pages in machine words — the arithmetic of pages, step by step

    Rows and pages are counted without a limit, and a machine counts them in words of 64
    bits.  A page is laid out in words here, up to the first step that words cannot do: a
    sum, a difference or a product that is no word, a division by zero, a range without
    members, a slice that does not lie in the table. -/

namespace FindingsBrowser.Word

/-! ## Steps -/

/-- Why a step cannot be done in words. -/
inductive Fault where
  | overflow
  | underflow
  | zeroDivisor
  | emptyRange
  | outsideTable
  deriving DecidableEq

/-- A value, unless there is a fault. -/
def checked {α : Type} (fault : Fault) (faulty : Bool) (value : α) : Except Fault α :=
  if faulty then .error fault else .ok value

def add (a b : UInt64) : Except Fault UInt64 :=
  checked .overflow (BitVec.uaddOverflow a.toBitVec b.toBitVec) (a + b)

def sub (a b : UInt64) : Except Fault UInt64 :=
  checked .underflow (BitVec.usubOverflow a.toBitVec b.toBitVec) (a - b)

def mul (a b : UInt64) : Except Fault UInt64 :=
  checked .overflow (BitVec.umulOverflow a.toBitVec b.toBitVec) (a * b)

def div (a b : UInt64) : Except Fault UInt64 :=
  checked .zeroDivisor (b == 0) (a / b)

def rem (a b : UInt64) : Except Fault UInt64 :=
  checked .zeroDivisor (b == 0) (a % b)

/-- The member of a range that is nearest to a word. -/
def clamp (low high a : UInt64) : Except Fault UInt64 :=
  checked .emptyRange (decide (high < low)) (min (max a low) high)

/-! ## Pages -/

/-- The number of pages: a quotient, and one more for a remainder. -/
def countPages (total size : UInt64) : Except Fault UInt64 := do
  let full ← div total size
  let left ← rem total size
  if left = 0 then pure full else add full 1

/-- The place of the first row of a page. -/
def startOf (size page : UInt64) : Except Fault UInt64 := do
  let before ← sub page 1
  mul before size

/-- What is cut out of a table for a page: the rows from place `start` to before place
    `stop`. -/
structure Cut where
  page : UInt64
  lastPage : UInt64
  start : UInt64
  stop : UInt64
  deriving DecidableEq

/-- The cut for a page of a table of `total` rows. A page size of 0 counts as 1. -/
def cut (total page pageSize : UInt64) : Except Fault Cut := do
  let size := max pageSize 1
  let lastPage ← countPages total size
  let page ← clamp 1 lastPage page
  let start ← startOf size page
  let reach ← add start size
  pure ⟨page, lastPage, start, min reach total⟩

section Rows

variable {ρ : Type}

/-- The rows of a cut, which has to lie in the table. -/
def rowsOf (cut : Cut) (rows : List ρ) : Except Fault (List ρ) :=
  checked .outsideTable (decide (cut.stop < cut.start) || decide (rows.length < cut.stop.toNat))
    ((rows.drop cut.start.toNat).take (cut.stop.toNat - cut.start.toNat))

/-- A page of rows as they stand, laid out in words. -/
def layOut (rows : List ρ) (page pageSize : UInt64) : Except Fault (Page ρ) := do
  let total := UInt64.ofNat rows.length
  if total = 0 then pure .empty
  else
    let cut ← cut total page pageSize
    let shown ← rowsOf cut rows
    pure ⟨cut.page.toNat, cut.lastPage.toNat, total.toNat, shown⟩

end Rows

end FindingsBrowser.Word
