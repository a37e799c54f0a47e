import FindingsBrowser.Proofs.Text.Natural
import FindingsBrowser.Terminal.Style
import Mathlib.Data.List.Basic

/-! # Styled text — what is read between the escape sequences

    Output is made of pieces: texts, each with the styles around it.  What is shown of them
    holds escape sequences; what is read is the texts alone.

    * `shown` and `plain`: the two views of a list of pieces.
    * `unescaped_shown`: passing over the escape sequences of what is shown leaves what is
      read, unless a text has an escape character of its own. -/

namespace FindingsBrowser.Terminal

/-- A text with the styles around it, from the innermost out. -/
structure Piece where
  text : String
  styles : List Style

/-- A text in its styles. -/
def Piece.shown (piece : Piece) : String :=
  piece.styles.foldl (fun s style => styled style s) piece.text

/-- What a terminal gets of some pieces. -/
def shown (pieces : List Piece) : String :=
  String.join (pieces.map Piece.shown)

/-- What is read of some pieces. -/
def plain (pieces : List Piece) : String :=
  String.join (pieces.map Piece.text)

@[simp] theorem shown_nil : shown [] = "" := rfl

@[simp] theorem plain_nil : plain [] = "" := rfl

@[simp] theorem shown_append (xs ys : List Piece) : shown (xs ++ ys) = shown xs ++ shown ys := by
  rw [shown, List.map_append, String.join_append, shown, shown]

@[simp] theorem plain_append (xs ys : List Piece) : plain (xs ++ ys) = plain xs ++ plain ys := by
  rw [plain, List.map_append, String.join_append, plain, plain]

@[simp] theorem shown_cons (piece : Piece) (rest : List Piece) :
    shown (piece :: rest) = piece.shown ++ shown rest := by
  rw [shown, List.map_cons, String.join_cons, shown]

@[simp] theorem plain_cons (piece : Piece) (rest : List Piece) :
    plain (piece :: rest) = piece.text ++ plain rest := by
  rw [plain, List.map_cons, String.join_cons, plain]

theorem join_map_flatMap {α : Type} (view : Piece → String) (f : α → List Piece) (xs : List α) :
    String.join ((xs.flatMap f).map view)
      = String.join (xs.map fun x => String.join ((f x).map view)) := by
  induction xs with
  | nil => rfl
  | cons x rest ih =>
      rw [List.flatMap_cons, List.map_append, String.join_append, ih, List.map_cons,
        String.join_cons]

theorem shown_flatMap {α : Type} (f : α → List Piece) (xs : List α) :
    shown (xs.flatMap f) = String.join (xs.map fun x => shown (f x)) :=
  join_map_flatMap Piece.shown f xs

theorem plain_flatMap {α : Type} (f : α → List Piece) (xs : List α) :
    plain (xs.flatMap f) = String.join (xs.map fun x => plain (f x)) :=
  join_map_flatMap Piece.text f xs

/-! ## Passing over escape sequences -/

/-- A text without its escape sequences; `inside` says whether the text starts inside of
    one. -/
def unescaped (inside : Bool) : List Char → List Char
  | [] => []
  | c :: rest =>
      if inside then unescaped (c != 'm') rest
      else if c = '\x1b' then unescaped true rest
      else c :: unescaped false rest

/-- A text without an escape character is left as it is. -/
theorem unescaped_append {s : List Char} (h : '\x1b' ∉ s) (rest : List Char) :
    unescaped false (s ++ rest) = s ++ unescaped false rest := by
  induction s with
  | nil => rfl
  | cons c cs ih =>
      rw [List.mem_cons, not_or] at h
      rw [List.cons_append, unescaped, if_neg Bool.false_ne_true, if_neg (Ne.symm h.1), ih h.2,
        List.cons_append]

theorem unescaped_escape {code : String} (h : 'm' ∉ code.toList) (rest : List Char) :
    unescaped false ((escape code).toList ++ rest) = unescaped false rest := by
  have hinside : ∀ {s : List Char}, 'm' ∉ s →
      unescaped true (s ++ 'm' :: rest) = unescaped false rest := by
    intro s hs
    induction s with
    | nil => rfl
    | cons c cs ih =>
        rw [List.mem_cons, not_or] at hs
        rw [List.cons_append, unescaped, if_pos rfl, bne_iff_ne.mpr (Ne.symm hs.1), ih hs.2]
  have hchars : (escape code).toList ++ rest
      = '\x1b' :: (('[' :: code.toList) ++ 'm' :: rest) := by
    rw [escape, String.toList_append, String.toList_append]
    simp
  have hcode : 'm' ∉ '[' :: code.toList := by
    rw [List.mem_cons, not_or]
    exact ⟨by decide, h⟩
  rw [hchars, unescaped, if_neg Bool.false_ne_true, if_pos rfl, hinside hcode]

/-- A style takes nothing from a text and adds nothing to it. -/
theorem unescaped_styled (style : Style) {s : String} {plain : List Char}
    (h : ∀ rest, unescaped false (s.toList ++ rest) = plain ++ unescaped false rest)
    (rest : List Char) :
    unescaped false ((styled style s).toList ++ rest) = plain ++ unescaped false rest := by
  have hcode : 'm' ∉ style.code.toList := by cases style <;> decide
  have hreset : 'm' ∉ style.resetCode.toList := by cases style <;> decide
  rw [styled, String.toList_append, String.toList_append, List.append_assoc, List.append_assoc,
    unescaped_escape hcode, h, unescaped_escape hreset]

theorem Piece.unescaped_shown {piece : Piece} (h : '\x1b' ∉ piece.text.toList)
    (rest : List Char) :
    unescaped false (piece.shown.toList ++ rest)
      = piece.text.toList ++ unescaped false rest := by
  obtain ⟨text, styles⟩ := piece
  have hfold : ∀ {styles : List Style} {s : String},
      (∀ rest, unescaped false (s.toList ++ rest) = text.toList ++ unescaped false rest) →
      ∀ rest, unescaped false ((styles.foldl (fun s style => styled style s) s).toList ++ rest)
        = text.toList ++ unescaped false rest := by
    intro styles
    induction styles with
    | nil => exact fun hs => hs
    | cons style outer ih => exact fun hs => ih (unescaped_styled style hs)
  exact hfold (unescaped_append h) rest

/-- **WHAT IS READ** of some pieces is what is left of what is shown, without its escape
    sequences. -/
theorem unescaped_shown {pieces : List Piece}
    (h : ∀ piece ∈ pieces, '\x1b' ∉ piece.text.toList) :
    unescaped false (shown pieces).toList = (plain pieces).toList := by
  induction pieces with
  | nil => rfl
  | cons piece rest ih =>
      rw [List.forall_mem_cons] at h
      rw [shown_cons, plain_cons, String.toList_append, String.toList_append,
        piece.unescaped_shown h.1, ih h.2]

/-! ## Printable texts -/

/-- A text without control characters, such as line feeds and escape characters. -/
def Printable (s : String) : Prop := ∀ c ∈ s.toList, 0x20 ≤ c.toNat

-- over the text's own characters: the search for an instance may go over every `Char`
instance : DecidablePred Printable := fun s =>
  List.decidableBAll (fun c : Char => 0x20 ≤ c.toNat) s.toList

theorem Printable.not_mem {s : String} (h : Printable s) {c : Char} (hc : c.toNat < 0x20) :
    c ∉ s.toList :=
  fun hmem => absurd (h c hmem) (Nat.not_le.mpr hc)

theorem Printable.append {s t : String} (hs : Printable s) (ht : Printable t) :
    Printable (s ++ t) := by
  intro c hc
  rw [String.toList_append, List.mem_append] at hc
  exact hc.elim (hs c) (ht c)

theorem printable_toString (n : Nat) : Printable (toString n) := by
  intro c hc
  rw [Nat.toString_eq_repr, Nat.toList_repr] at hc
  have hdigit : c.isDigit = true := Nat.isDigit_of_mem_toDigits (by decide) (by decide) hc
  exact Nat.le_trans (by decide) (Text.toNat_of_isDigit hdigit).1

theorem Printable.padLeft {s : String} (h : Printable s) (width : Nat) :
    Printable (padLeft width s) := by
  refine Printable.append (fun c hc => ?_) h
  rw [String.toList_ofList] at hc
  obtain rfl : c = ' ' := List.eq_of_mem_replicate hc
  decide

/-! ## Padding -/

theorem length_padLeft (width : Nat) (s : String) :
    (padLeft width s).length = max width s.length := by
  rw [padLeft, String.length_append, String.length_ofList, List.length_replicate]
  omega

end FindingsBrowser.Terminal
