import FindingsBrowser.Proofs.Table.Page
import FindingsBrowser.Table.Words
import FindingsBrowser.Text.Natural
import Mathlib.Algebra.Group.Nat.Defs

/-! # Pages in machine words — no step of the arithmetic goes wrong

    `Word.layOut` lays a page out in words of 64 bits, and stops at the first step that
    words cannot do.

    * a step on words that fit is the step on their numbers (`add_ofNat` and its like);
    * `pageStart_add_lt` bounds the one sum that may go past the end of the table;
    * `pages_fit_words`: no step goes wrong, and the page is the one that was meant. -/

namespace FindingsBrowser

open Text

namespace Word

/-! ## Steps that fit -/

theorem toNat_ofNat {n : Nat} (h : n < wordLimit) : (UInt64.ofNat n).toNat = n :=
  UInt64.toNat_ofNat_of_lt' h

theorem checked_of_not {α : Type} {fault : Fault} {faulty : Bool} {value : α}
    (h : faulty = false) : checked fault faulty value = .ok value := by
  rw [checked, h]
  rfl

theorem ok_bind {α β : Type} (a : α) (f : α → Except Fault β) : (.ok a >>= f) = f a :=
  rfl

theorem toNat_toBitVec_ofNat {n : Nat} (h : n < wordLimit) :
    (UInt64.ofNat n).toBitVec.toNat = n := by
  rw [UInt64.toNat_toBitVec, toNat_ofNat h]

theorem add_ofNat {a b : Nat} (h : a + b < wordLimit) :
    add (.ofNat a) (.ofNat b) = .ok (.ofNat (a + b)) := by
  have ha : a < wordLimit := Nat.lt_of_le_of_lt (Nat.le_add_right a b) h
  have hb : b < wordLimit := Nat.lt_of_le_of_lt (Nat.le_add_left b a) h
  have hfits : ¬ 2 ^ 64 ≤ a + b := Nat.not_le.mpr h
  rw [add, BitVec.uaddOverflow, toNat_toBitVec_ofNat ha, toNat_toBitVec_ofNat hb,
    checked_of_not (decide_eq_false hfits), ← UInt64.ofNat_add]

theorem sub_ofNat {a b : Nat} (ha : a < wordLimit) (h : b ≤ a) :
    sub (.ofNat a) (.ofNat b) = .ok (.ofNat (a - b)) := by
  have hb : b < wordLimit := Nat.lt_of_le_of_lt h ha
  rw [sub, BitVec.usubOverflow, toNat_toBitVec_ofNat ha, toNat_toBitVec_ofNat hb,
    checked_of_not (decide_eq_false (Nat.not_lt.mpr h)), ← UInt64.ofNat_sub h]

theorem mul_ofNat {a b : Nat} (ha : a < wordLimit) (hb : b < wordLimit) (h : a * b < wordLimit) :
    mul (.ofNat a) (.ofNat b) = .ok (.ofNat (a * b)) := by
  have hfits : ¬ 2 ^ 64 ≤ a * b := Nat.not_le.mpr h
  rw [mul, BitVec.umulOverflow, toNat_toBitVec_ofNat ha, toNat_toBitVec_ofNat hb,
    checked_of_not (decide_eq_false hfits), ← UInt64.ofNat_mul]

/-- The word of a number that fits is zero only for zero. -/
theorem ofNat_ne_zero {n : Nat} (h : n < wordLimit) (hpos : 0 < n) : UInt64.ofNat n ≠ 0 := by
  intro hzero
  have htoNat := congrArg UInt64.toNat hzero
  rw [toNat_ofNat h] at htoNat
  exact Nat.ne_of_gt hpos htoNat

theorem div_ofNat {a b : Nat} (ha : a < wordLimit) (hb : b < wordLimit) (h : 0 < b) :
    div (.ofNat a) (.ofNat b) = .ok (.ofNat (a / b)) := by
  rw [div, checked_of_not (beq_eq_false_iff_ne.mpr (ofNat_ne_zero hb h)),
    ← UInt64.ofNat_div ha hb]

theorem rem_ofNat {a b : Nat} (ha : a < wordLimit) (hb : b < wordLimit) (h : 0 < b) :
    rem (.ofNat a) (.ofNat b) = .ok (.ofNat (a % b)) := by
  rw [rem, checked_of_not (beq_eq_false_iff_ne.mpr (ofNat_ne_zero hb h)),
    ← UInt64.ofNat_mod ha hb]

/-- Words of numbers that fit are in the order of the numbers. -/
theorem ofNat_le_ofNat_iff {a b : Nat} (ha : a < wordLimit) (hb : b < wordLimit) :
    UInt64.ofNat a ≤ .ofNat b ↔ a ≤ b := by
  rw [UInt64.le_iff_toNat_le, toNat_ofNat ha, toNat_ofNat hb]

theorem max_ofNat {a b : Nat} (ha : a < wordLimit) (hb : b < wordLimit) :
    max (UInt64.ofNat a) (.ofNat b) = .ofNat (max a b) := by
  by_cases h : a ≤ b
  · rw [Nat.max_eq_right h]
    exact if_pos ((ofNat_le_ofNat_iff ha hb).mpr h)
  · rw [Nat.max_eq_left (Nat.le_of_not_le h)]
    exact if_neg (mt (ofNat_le_ofNat_iff ha hb).mp h)

theorem min_ofNat {a b : Nat} (ha : a < wordLimit) (hb : b < wordLimit) :
    min (UInt64.ofNat a) (.ofNat b) = .ofNat (min a b) := by
  by_cases h : a ≤ b
  · rw [Nat.min_eq_left h]
    exact if_pos ((ofNat_le_ofNat_iff ha hb).mpr h)
  · rw [Nat.min_eq_right (Nat.le_of_not_le h)]
    exact if_neg (mt (ofNat_le_ofNat_iff ha hb).mp h)

theorem clamp_ofNat {low high a : Nat} (hhigh : high < wordLimit) (ha : a < wordLimit)
    (h : low ≤ high) :
    clamp (.ofNat low) (.ofNat high) (.ofNat a) = .ok (.ofNat (min (max a low) high)) := by
  have hlow : low < wordLimit := Nat.lt_of_le_of_lt h hhigh
  have hrange : ¬ UInt64.ofNat high < UInt64.ofNat low :=
    UInt64.not_lt.mpr ((ofNat_le_ofNat_iff hlow hhigh).mpr h)
  rw [clamp, checked_of_not (decide_eq_false hrange), max_ofNat ha hlow,
    min_ofNat (Nat.max_lt.mpr ⟨ha, hlow⟩) hhigh]

/-! ## Pages that fit -/

theorem lt_wordLimit {total : Nat} (h : total ≤ 2 ^ 63 - 1) : total < wordLimit := by
  rw [wordLimit]
  omega

/-- The number of pages fits, since there are no more pages than rows. -/
theorem countPages_ofNat {total size : Nat} (htotal : total < wordLimit) (hsize : size < wordLimit)
    (hpos : 0 < size) :
    countPages (.ofNat total) (.ofNat size) = .ok (.ofNat (pageCount total size)) := by
  have hfull : pageCount total size < wordLimit := Nat.lt_of_le_of_lt (pageCount_le hpos) htotal
  have hleft : total % size < wordLimit := Nat.lt_of_le_of_lt (Nat.mod_le total size) htotal
  rw [countPages, div_ofNat htotal hsize hpos, rem_ofNat htotal hsize hpos]
  show (if UInt64.ofNat (total % size) = 0 then .ok (UInt64.ofNat (total / size))
    else add (.ofNat (total / size)) (.ofNat 1)) = _
  by_cases hmod : total % size = 0
  · rw [hmod, pageCount, if_pos hmod]
    rfl
  · rw [pageCount, if_neg hmod] at hfull
    rw [if_neg (ofNat_ne_zero hleft (Nat.pos_of_ne_zero hmod)), add_ofNat hfull, pageCount,
      if_neg hmod]

theorem startOf_ofNat {size page : Nat} (hsize : size < wordLimit) (hpage : page < wordLimit)
    (hpos : 1 ≤ page) (h : pageStart size page < wordLimit) :
    startOf (.ofNat size) (.ofNat page) = .ok (.ofNat (pageStart size page)) := by
  have hbefore : page - 1 < wordLimit := Nat.lt_of_le_of_lt (Nat.sub_le page 1) hpage
  have hsub : sub (.ofNat page) 1 = .ok (.ofNat (page - 1)) := sub_ofNat hpage hpos
  rw [startOf, hsub, ok_bind, mul_ofNat hbefore hsize h, pageStart]

/-- **THE SUM THAT MAY GO PAST THE TABLE** is a word. On the first page it is the page size,
    whatever that is; on another one the page size is at most the start, and both of them
    together are less than twice the table. -/
theorem pageStart_add_lt {total size page : Nat} (htotal : total ≤ 2 ^ 63 - 1)
    (hsize : size < wordLimit) (hpos : 0 < size) (hlow : 1 ≤ page)
    (hhigh : page ≤ pageCount total size) : pageStart size page + size < wordLimit := by
  have hstart : pageStart size page < total := pageStart_lt hpos hlow hhigh
  rcases Nat.eq_or_lt_of_le hlow with rfl | hnext
  · rw [pageStart, Nat.sub_self, Nat.zero_mul, Nat.zero_add]
    exact hsize
  · have hle : size ≤ pageStart size page :=
      Nat.le_mul_of_pos_left size (Nat.sub_pos_of_lt hnext)
    rw [wordLimit]
    omega

/-- **NO STEP TO A CUT GOES WRONG**: the cut for a page of a table that has rows. -/
theorem cut_ofNat {total page pageSize : Nat} (hrows : 0 < total) (htotal : total ≤ 2 ^ 63 - 1)
    (hpage : page < wordLimit) (hsize : pageSize < wordLimit) :
    let size := max pageSize 1
    let number := pageNumber total size page
    let start := pageStart size number
    cut (.ofNat total) (.ofNat page) (.ofNat pageSize)
      = .ok
        { page := .ofNat number
          lastPage := .ofNat (pageCount total size)
          start := .ofNat start
          stop := .ofNat (min (start + size) total) } := by
  intro size number start
  have hword : total < wordLimit := lt_wordLimit htotal
  have hone : 1 < wordLimit := by decide
  have hsize' : size < wordLimit := Nat.max_lt.mpr ⟨hsize, hone⟩
  have hpos : 0 < size := Nat.le_max_right pageSize 1
  have hcount : pageCount total size < wordLimit := Nat.lt_of_le_of_lt (pageCount_le hpos) hword
  obtain ⟨hlow, hhigh⟩ := pageNumber_bounds hrows hpos page
  have hnumber : number < wordLimit := Nat.lt_of_le_of_lt hhigh hcount
  have hreach : start + size < wordLimit := pageStart_add_lt htotal hsize' hpos hlow hhigh
  have hstart : start < wordLimit := Nat.lt_of_le_of_lt (Nat.le_add_right start size) hreach
  have hmax : max (UInt64.ofNat pageSize) 1 = .ofNat size := max_ofNat hsize hone
  have hclamp : clamp 1 (.ofNat (pageCount total size)) (.ofNat page) = .ok (.ofNat number) :=
    clamp_ofNat hcount hpage (one_le_pageCount hrows hpos)
  rw [cut, hmax, countPages_ofNat hword hsize' hpos, ok_bind, hclamp, ok_bind,
    startOf_ofNat hsize' hnumber hlow hstart, ok_bind, add_ofNat hreach, ok_bind,
    min_ofNat hreach hword]
  rfl

section Rows

variable {ρ : Type}

/-- A cut that lies in the table has the rows between its places. -/
theorem rowsOf_of_le {cut : Cut} {rows : List ρ} (hle : cut.start ≤ cut.stop)
    (hstop : cut.stop.toNat ≤ rows.length) :
    rowsOf cut rows
      = .ok ((rows.drop cut.start.toNat).take (cut.stop.toNat - cut.start.toNat)) := by
  have hinside : (decide (cut.stop < cut.start) || decide (rows.length < cut.stop.toNat))
      = false := by
    rw [Bool.or_eq_false_iff]
    exact ⟨decide_eq_false (UInt64.not_lt.mpr hle), decide_eq_false (Nat.not_lt.mpr hstop)⟩
  rw [rowsOf, checked_of_not hinside]

/-- A slice that is cut off at the end of the table is the same slice. -/
theorem take_min_sub (start size : Nat) (rows : List ρ) :
    (rows.drop start).take (min (start + size) rows.length - start) = slice start size rows := by
  rw [slice, List.take_eq_take_iff, List.length_drop]
  omega

/-- A page is laid out as its cut says, if the cut lies in the table. -/
theorem layOut_of_cut {rows : List ρ} (hrows : 0 < rows.length) (hword : rows.length < wordLimit)
    {page pageSize : UInt64} {number last start stop : Nat}
    (hcut : cut (.ofNat rows.length) page pageSize
      = .ok ⟨.ofNat number, .ofNat last, .ofNat start, .ofNat stop⟩)
    (hnumber : number < wordLimit) (hlast : last < wordLimit) (hle : start ≤ stop)
    (hstop : stop ≤ rows.length) :
    layOut rows page pageSize
      = .ok ⟨number, last, rows.length, (rows.drop start).take (stop - start)⟩ := by
  have hstop' : stop < wordLimit := Nat.lt_of_le_of_lt hstop hword
  have hstart' : start < wordLimit := Nat.lt_of_le_of_lt hle hstop'
  have hplaces : UInt64.ofNat start ≤ UInt64.ofNat stop :=
    (ofNat_le_ofNat_iff hstart' hstop').mpr hle
  have hinside : (UInt64.ofNat stop).toNat ≤ rows.length := by
    rw [toNat_ofNat hstop']
    exact hstop
  rw [layOut, if_neg (ofNat_ne_zero hword hrows), hcut, ok_bind, rowsOf_of_le hplaces hinside, ok_bind,
    toNat_ofNat hnumber, toNat_ofNat hlast, toNat_ofNat hword, toNat_ofNat hstart',
    toNat_ofNat hstop']
  rfl

end Rows

end Word

/-- **PAGES FIT INTO MACHINE WORDS**, for every table of at most `2 ^ 63 - 1` rows and every
    page number and page size of 64 bits.  Laid out in words, the page is the one that is
    meant: no sum, difference or product on the way is anything but a word, nothing is
    divided by zero, the page number is looked for in a range that has one, and the slice
    is not empty and lies in the table. -/
theorem pages_fit_words {ρ : Type} (rows : List ρ) (hrows : rows.length ≤ 2 ^ 63 - 1)
    (page pageSize : UInt64) :
    let total := rows.length
    let size := max pageSize.toNat 1
    let number := pageNumber total size page.toNat
    let start := pageStart size number
    let stop := min (start + size) total
    Word.layOut rows page pageSize = .ok (pageOf rows page.toNat pageSize.toNat)
      ∧ (rows ≠ [] →
          Word.cut (.ofNat total) page pageSize
              = .ok ⟨.ofNat number, .ofNat (pageCount total size), .ofNat start, .ofNat stop⟩
            ∧ (0 < size ∧ 1 ≤ number ∧ number ≤ pageCount total size)
            ∧ (pageCount total size < wordLimit ∧ start + size < wordLimit)
            ∧ (start < stop ∧ stop ≤ total)
            ∧ (pageOf rows page.toNat pageSize.toNat).rows
              = (rows.drop start).take (stop - start)) := by
  intro total size number start stop
  by_cases hempty : rows = []
  · subst hempty
    exact ⟨rfl, fun h => absurd rfl h⟩
  · have htotal : 0 < total := List.length_pos_iff.mpr hempty
    have hword : total < wordLimit := Word.lt_wordLimit hrows
    have hpos : 0 < size := Nat.le_max_right pageSize.toNat 1
    have hsize : size < wordLimit := Nat.max_lt.mpr ⟨pageSize.toNat_lt, by decide⟩
    obtain ⟨hlow, hhigh⟩ : 1 ≤ number ∧ number ≤ pageCount total size :=
      pageNumber_bounds htotal hpos page.toNat
    have hcount : pageCount total size < wordLimit := Nat.lt_of_le_of_lt (pageCount_le hpos) hword
    have hreach : start + size < wordLimit := Word.pageStart_add_lt hrows hsize hpos hlow hhigh
    have hstart : start < stop :=
      Nat.lt_min.mpr ⟨Nat.lt_add_of_pos_right hpos, pageStart_lt hpos hlow hhigh⟩
    have hstop : stop ≤ total := Nat.min_le_right (start + size) total
    have hcut := Word.cut_ofNat htotal hrows page.toNat_lt pageSize.toNat_lt
    rw [UInt64.ofNat_toNat, UInt64.ofNat_toNat] at hcut
    have hlaid := Word.layOut_of_cut htotal hword hcut (Nat.lt_of_le_of_lt hhigh hcount) hcount
      (Nat.le_of_lt hstart) hstop
    have hpage : pageOf rows page.toNat pageSize.toNat
        = ⟨number, pageCount total size, total, (rows.drop start).take (stop - start)⟩ := by
      rw [pageOf_of_ne_nil hempty, Word.take_min_sub]
    refine ⟨hlaid.trans (congrArg Except.ok hpage.symm), fun _ => ?_⟩
    exact ⟨hcut, ⟨hpos, hlow, hhigh⟩, ⟨hcount, hreach⟩, ⟨hstart, hstop⟩, congrArg Page.rows hpage⟩

/-- The largest word as a page number and as a page size, for a table of three rows. -/
theorem pages_fit_words_largest :
    let rows := ["a", "b", "c"]
    let largest : UInt64 := 0xffffffffffffffff
    Word.layOut rows largest largest = .ok ⟨1, 1, 3, rows⟩
      ∧ Word.layOut rows largest 2 = .ok ⟨2, 2, 3, ["c"]⟩
      ∧ Word.cut 3 largest 2 = .ok ⟨2, 2, 2, 3⟩ := by
  intro rows largest
  have hrows : rows.length ≤ 2 ^ 63 - 1 := by decide
  have hone : pageOf rows largest.toNat largest.toNat = ⟨1, 1, 3, rows⟩ := by decide
  have htwo : pageOf rows largest.toNat (2 : UInt64).toNat = ⟨2, 2, 3, ["c"]⟩ := by decide
  obtain ⟨hfirst, -⟩ := pages_fit_words rows hrows largest largest
  obtain ⟨hsecond, hsteps⟩ := pages_fit_words rows hrows largest 2
  obtain ⟨hcut, -⟩ := hsteps (List.cons_ne_nil _ _)
  exact ⟨hfirst.trans (congrArg Except.ok hone), hsecond.trans (congrArg Except.ok htwo),
    hcut.trans (congrArg Except.ok (by decide))⟩

-- beyond the bound, the end of a page need not be a word
example : Word.cut 0x8000000000000002 2 0x8000000000000001 = .error .overflow := by rfl

end FindingsBrowser
