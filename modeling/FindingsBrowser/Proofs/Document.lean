import FindingsBrowser.Document.Basic
import FindingsBrowser.Proofs.Text.Utf8

/-! # Documents — a text is its lines and their ends

    The scan sees bytes and knows nothing of characters, and lines are cut out between the
    places that it finds.  No byte of a character but the line feed is a line feed, so these
    places are those behind the line feeds of the text, which are boundaries of characters.

    * `endedLines` cuts a text behind its line feeds, character by character; nothing of it
      is lost (`flatten_endedLines`).
    * `scanStarts_encode`: the scan finds where these lines start, and `rawLine?_eq` cuts
      out each of them.
    * `ending_eq`: what a line loses when it is shown.
    * `rawLines_eq`: cut at its line feeds, the text gives the same lines. -/

namespace FindingsBrowser.Document

open Text

/-! ## Lines with their ends -/

/-- A text, cut behind its line feeds. -/
def endedLines : List Char → List (List Char)
  | [] => []
  | c :: cs =>
      if c = '\n' then [c] :: endedLines cs
      else
        match endedLines cs with
        | [] => [[c]]
        | line :: rest => (c :: line) :: rest

theorem endedLines_feed (cs : List Char) : endedLines ('\n' :: cs) = ['\n'] :: endedLines cs := by
  rw [endedLines, if_pos rfl]

/-- A character that ends no line belongs to the line behind it. -/
theorem endedLines_cons {c : Char} (h : c ≠ '\n') (cs : List Char) :
    endedLines (c :: cs)
      = (c :: (endedLines cs).headD []) :: (endedLines cs).tail := by
  rw [endedLines, if_neg h]
  cases endedLines cs with
  | nil => rfl
  | cons line rest => rfl

theorem endedLines_eq_nil_iff {s : List Char} : endedLines s = [] ↔ s = [] := by
  cases s with
  | nil => exact ⟨fun _ => rfl, fun _ => rfl⟩
  | cons c cs =>
      by_cases hc : c = '\n'
      · rw [hc, endedLines_feed]
        exact ⟨nofun, nofun⟩
      · rw [endedLines_cons hc]
        exact ⟨nofun, nofun⟩

/-- **NOTHING IS LOST**: the lines with their ends, one after another, are the text. -/
theorem flatten_endedLines (s : List Char) : (endedLines s).flatten = s := by
  induction s with
  | nil => rfl
  | cons c cs ih =>
      by_cases hc : c = '\n'
      · rw [hc, endedLines_feed, List.flatten_cons, ih, List.singleton_append]
      · rw [endedLines_cons hc, List.flatten_cons, List.cons_append]
        cases hlines : endedLines cs with
        | nil => rw [endedLines_eq_nil_iff.mp hlines]; rfl
        | cons line rest => rw [List.headD_cons, List.tail_cons, ← List.flatten_cons, ← hlines, ih]

/-- Every line but the last one ends at a line feed, and holds no other. -/
theorem shape_of_endedLines {s : List Char} : ∀ {k : Nat} {raw : List Char},
    (endedLines s)[k]? = some raw →
      ∃ body, '\n' ∉ body
        ∧ (raw = body ++ ['\n'] ∨ (raw = body ∧ k + 1 = (endedLines s).length)) := by
  induction s with
  | nil => intro k raw h; exact nomatch h
  | cons c cs ih =>
      intro k raw h
      by_cases hc : c = '\n'
      · rw [hc, endedLines_feed] at h ⊢
        cases k with
        | zero =>
            cases h
            exact ⟨[], List.not_mem_nil, Or.inl rfl⟩
        | succ k =>
            obtain ⟨body, hbody, hraw⟩ := ih h
            exact ⟨body, hbody, hraw.imp id (And.imp id (congrArg (· + 1)))⟩
      · rw [endedLines_cons hc] at h ⊢
        have hhead : '\n' ∉ [c] := fun hmem => hc (List.mem_singleton.mp hmem).symm
        cases hlines : endedLines cs with
        | nil =>
            rw [hlines] at h
            cases k with
            | zero =>
                cases h
                exact ⟨[c], hhead, Or.inr ⟨rfl, rfl⟩⟩
            | succ k => exact nomatch h
        | cons line rest =>
            rw [hlines] at h ih
            cases k with
            | zero =>
                cases h
                obtain ⟨body, hbody, hraw⟩ := ih (k := 0) rfl
                refine ⟨c :: body, ?_, ?_⟩
                · rw [List.mem_cons, not_or]
                  exact ⟨Ne.symm hc, hbody⟩
                · exact hraw.imp (congrArg (c :: ·)) (And.imp (congrArg (c :: ·)) id)
            | succ k => exact ih (k := k + 1) h

/-- The number of lines: one for every line feed, and one for what is left behind the last
    of them. -/
theorem length_endedLines (s : List Char) :
    (endedLines s).length
      = s.count '\n' + if s = [] ∨ s.getLast? = some '\n' then 0 else 1 := by
  induction s with
  | nil => rfl
  | cons c cs ih =>
      cases cs with
      | nil =>
          by_cases hc : c = '\n'
          · rw [hc]
            rfl
          · rw [endedLines_cons hc, List.count_cons_of_ne hc]
            simp [hc, endedLines]
      | cons d ds =>
          -- what is left behind the last line feed is the same with `c` as without
          have hlast : (c :: d :: ds = [] ∨ (c :: d :: ds).getLast? = some '\n')
              ↔ (d :: ds = [] ∨ (d :: ds).getLast? = some '\n') := by
            rw [List.getLast?_cons_cons]
            exact or_congr_left ⟨nofun, nofun⟩
          simp only [hlast]
          by_cases hc : c = '\n'
          · rw [hc, endedLines_feed, List.length_cons, ih, List.count_cons_self]
            omega
          · have hpos : 0 < (endedLines (d :: ds)).length :=
              List.length_pos_iff.mpr fun hnil => nomatch endedLines_eq_nil_iff.mp hnil
            rw [endedLines_cons hc, List.length_cons, List.length_tail, Nat.sub_add_cancel hpos, ih,
              List.count_cons_of_ne hc]

/-! ## The scan -/

/-- Bytes among which no line feed is are passed over. -/
theorem scanStarts_of_not_mem {bytes : List UInt8} (h : lineFeed ∉ bytes) (size : Nat)
    (rest : List UInt8) : ∀ (place : Nat) (starts : Array Nat),
    scanStarts size place starts (bytes ++ rest)
      = scanStarts size (place + bytes.length) starts rest := by
  induction bytes with
  | nil => intro place starts; rfl
  | cons byte bytes ih =>
      intro place starts
      rw [List.mem_cons, not_or] at h
      rw [List.cons_append, scanStarts, if_neg fun hfeed => h.1 hfeed.1.symm, ih h.2,
        List.length_cons]
      congr 1
      omega

/-- No byte of a character but the line feed is a line feed. -/
theorem lineFeed_not_mem_encodeChar {c : Char} (h : c ≠ '\n') :
    lineFeed ∉ String.utf8EncodeChar c := by
  intro hmem
  rcases Utf8.toNat_of_mem_encodeChar hmem with hone | hmore
  · exact h (Char.toNat_inj.mp hone.symm)
  · exact absurd hmore (by decide)

/-- The places where lines start that follow one another from a place on. -/
def places (place : Nat) : List (List Char) → List Nat
  | [] => []
  | raw :: rest => place :: places (place + (Utf8.encode raw).length) rest

theorem getElem?_places {lines : List (List Char)} {k : Nat} :
    ∀ {place : Nat}, k < lines.length →
      (places place lines)[k]? = some (place + (Utf8.encode (lines.take k).flatten).length) := by
  induction lines generalizing k with
  | nil => intro place h; exact absurd h (Nat.not_lt_zero k)
  | cons raw rest ih =>
      intro place h
      cases k with
      | zero => rfl
      | succ k =>
          rw [places, List.getElem?_cons_succ, ih (Nat.lt_of_succ_lt_succ h), List.take_succ_cons,
            List.flatten_cons, Utf8.encode_append, List.length_append, Nat.add_assoc]

theorem length_places (lines : List (List Char)) :
    ∀ place, (places place lines).length = lines.length := by
  induction lines with
  | nil => intro place; rfl
  | cons raw rest ih => intro place; rw [places, List.length_cons, List.length_cons, ih]

/-- A line is counted from where it starts, whatever its first character is. -/
theorem tail_places (place : Nat) (lines : List (List Char)) (c : Char) :
    (places place ((c :: lines.headD []) :: lines.tail)).tail
      = (places (place + (String.utf8EncodeChar c).length) lines).tail := by
  cases lines with
  | nil => rfl
  | cons raw rest =>
      rw [List.headD_cons, List.tail_cons, places, places, List.tail_cons, List.tail_cons,
        Utf8.encode_cons, List.length_append, Nat.add_assoc]

/-- The first line starts where the lines start. -/
theorem places_eq_cons {lines : List (List Char)} (h : lines ≠ []) (place : Nat) :
    places place lines = place :: (places place lines).tail := by
  cases lines with
  | nil => exact absurd rfl h
  | cons raw rest => rfl

theorem length_encode_pos {s : List Char} (h : s ≠ []) : 0 < (Utf8.encode s).length := by
  cases s with
  | nil => exact absurd rfl h
  | cons c cs =>
      rw [Utf8.encode_cons, List.length_append, String.length_utf8EncodeChar]
      exact Nat.lt_of_lt_of_le c.utf8Size_pos (Nat.le_add_right _ _)

/-- **THE SCAN** finds where the lines start that are still to come. -/
theorem scanStarts_encode (s : List Char) : ∀ (place : Nat) (starts : Array Nat),
    (scanStarts (place + (Utf8.encode s).length) place starts (Utf8.encode s)).toList
      = starts.toList ++ (places place (endedLines s)).tail := by
  induction s with
  | nil =>
      intro place starts
      exact (List.append_nil _).symm
  | cons c cs ih =>
      intro place starts
      rw [Utf8.encode_cons, List.length_append, ← Nat.add_assoc]
      by_cases hc : c = '\n'
      · have hfeed : String.utf8EncodeChar '\n' = [lineFeed] := by decide
        rw [hc, hfeed, List.length_singleton, List.singleton_append, scanStarts, ih,
          endedLines_feed, places, List.tail_cons]
        show _ = starts.toList ++ places (place + 1) (endedLines cs)
        -- the line feed starts a line behind it unless nothing is left
        by_cases hcs : cs = []
        · rw [if_neg, hcs]
          · rfl
          · rw [hcs]
            exact fun h => Nat.lt_irrefl _ h.2
        · have hpos := length_encode_pos hcs
          rw [if_pos ⟨rfl, by omega⟩, Array.toList_push, List.append_assoc, List.singleton_append,
            ← places_eq_cons fun hnil => hcs (endedLines_eq_nil_iff.mp hnil)]
      · rw [scanStarts_of_not_mem (lineFeed_not_mem_encodeChar hc), ih, endedLines_cons hc,
          tail_places]

/-! ## Lines cut out of the text -/

/-- **LINE STARTS** are the places of the lines with their ends. -/
theorem toList_lineStarts (d : Document) :
    d.lineStarts.toList = places 0 (endedLines d.text.toList) := by
  have hscan := scanStarts_encode d.text.toList 0
  rw [Nat.zero_add] at hscan
  by_cases htext : d.text.toList = []
  · rw [lineStarts, htext]
    rfl
  · have hfull : (Utf8.encode d.text.toList).isEmpty = false := by
      rw [List.isEmpty_eq_false_iff, ← List.length_pos_iff]
      exact length_encode_pos htext
    rw [lineStarts, hfull, hscan, places_eq_cons fun hnil => htext (endedLines_eq_nil_iff.mp hnil)]
    rfl

theorem lineCount_eq (d : Document) : d.lineCount = (endedLines d.text.toList).length := by
  rw [lineCount, ← Array.length_toList, toList_lineStarts, length_places]

/-- The first `k` lines take as many bytes as lie before the place behind the last of
    them. -/
theorem getElem?_lineStarts (d : Document) {k : Nat} (h : k < d.lineCount) :
    d.lineStarts[k]?
      = some (String.ofList ((endedLines d.text.toList).take k).flatten).utf8ByteSize := by
  rw [lineCount_eq] at h
  rw [← Array.getElem?_toList, toList_lineStarts, getElem?_places h, Nat.zero_add,
    Utf8.length_encode]

theorem lineStop_eq (d : Document) (k : Nat) :
    d.lineStop d.lineStarts (k + 1)
      = (String.ofList ((endedLines d.text.toList).take (k + 1)).flatten).utf8ByteSize := by
  rw [lineStop]
  by_cases hnext : k + 1 < d.lineCount
  · rw [getElem?_lineStarts d hnext, Option.getD_some]
  · have hlast : d.lineStarts.size ≤ k + 1 := Nat.not_lt.mp hnext
    have hlength : (endedLines d.text.toList).length ≤ k + 1 := lineCount_eq d ▸ hlast
    rw [Array.getElem?_eq_none hlast, Option.getD_none, List.take_of_length_le hlength,
      flatten_endedLines, String.ofList_toList]

/-- **EVERY LINE** is cut out at boundaries of characters, with its end. -/
theorem between?_lineStarts (d : Document) {k : Nat} {raw : List Char}
    (h : (endedLines d.text.toList)[k]? = some raw) :
    ∃ start, d.lineStarts[k]? = some start
      ∧ Utf8.between? d.text start (d.lineStop d.lineStarts (k + 1)) = some (String.ofList raw) := by
  obtain ⟨hk, -⟩ := List.getElem?_eq_some_iff.mp h
  have hstop : ((endedLines d.text.toList).take (k + 1)).flatten
      = ((endedLines d.text.toList).take k).flatten ++ raw := by
    rw [List.take_add_one, h, List.flatten_append, Option.toList_some, List.flatten_singleton]
  -- the text before the line, the line, and the text behind it
  have hsplit : d.text = String.ofList ((endedLines d.text.toList).take k).flatten
      ++ String.ofList raw ++ String.ofList ((endedLines d.text.toList).drop (k + 1)).flatten := by
    rw [← String.ofList_append, ← hstop, ← String.ofList_append, ← List.flatten_append,
      List.take_append_drop, flatten_endedLines, String.ofList_toList]
  rw [lineStop_eq, hstop, String.ofList_append]
  refine ⟨_, getElem?_lineStarts d (lineCount_eq d ▸ hk), ?_⟩
  exact (congrArg (fun text => Utf8.between? text _ _) hsplit).trans (Utf8.between?_append _ _ _)

theorem rawLine?_eq (d : Document) (k : Nat) :
    d.rawLine? d.lineStarts (k + 1) = (endedLines d.text.toList)[k]?.map String.ofList := by
  rw [rawLine?, if_neg (Nat.succ_ne_zero k), Nat.add_sub_cancel]
  cases hraw : (endedLines d.text.toList)[k]? with
  | some raw =>
      obtain ⟨start, hstart, hcut⟩ := between?_lineStarts d hraw
      rw [hstart, Option.map_some]
      exact hcut
  | none =>
      have hsize : d.lineStarts.size ≤ k :=
        Nat.le_trans (Nat.le_of_eq (lineCount_eq d)) (List.getElem?_eq_none_iff.mp hraw)
      rw [Array.getElem?_eq_none hsize]
      rfl

/-- A line is shown without what it loses. -/
theorem line?_eq (d : Document) (k : Nat) :
    d.line? (k + 1)
      = (endedLines d.text.toList)[k]?.map fun raw => String.ofList (stripLine raw) := by
  rw [line?, cutLine?, rawLine?_eq, Option.map_map]
  congr 1
  funext raw
  rw [Function.comp_apply, String.toList_ofList]

/-- **A LINE** is there exactly if its number is one of the document's. -/
theorem isSome_line? (d : Document) (line : Nat) :
    (d.line? line).isSome = true ↔ 1 ≤ line ∧ line ≤ d.lineCount := by
  cases line with
  | zero => exact ⟨nofun, fun h => absurd h.1 (Nat.not_succ_le_zero 0)⟩
  | succ k =>
      rw [line?_eq, Option.isSome_map, lineCount_eq, isSome_getElem?, Nat.succ_le_iff]
      exact (and_iff_right (Nat.le_add_left 1 k)).symm

/-! ## What a line loses -/

theorem stripEnd_concat (c : Char) (s : List Char) : stripEnd c (s ++ [c]) = s := by
  rw [stripEnd, if_pos List.getLast?_concat, List.dropLast_concat]

theorem stripEnd_of_ne {c : Char} {s : List Char} (h : s.getLast? ≠ some c) : stripEnd c s = s :=
  if_neg h

theorem stripEnd_cons {c e : Char} (h : c ≠ e) (s : List Char) :
    stripEnd e (c :: s) = c :: stripEnd e s := by
  cases s with
  | nil => exact stripEnd_of_ne fun hlast => h (Option.some.inj hlast)
  | cons d ds =>
      rw [stripEnd, stripEnd, List.getLast?_cons_cons, List.dropLast_cons_cons,
        apply_ite (List.cons c)]

/-- What is taken off is one `c` or nothing, and nothing only if no `c` is there. -/
theorem exists_stripEnd (c : Char) (s : List Char) :
    ∃ e, s = stripEnd c s ++ e
      ∧ ((e = [] ∧ (stripEnd c s).getLast? ≠ some c) ∨ e = [c]) := by
  by_cases h : s.getLast? = some c
  · obtain ⟨front, rfl⟩ := List.getLast?_eq_some_iff.mp h
    rw [stripEnd_concat]
    exact ⟨[c], rfl, Or.inr rfl⟩
  · rw [stripEnd_of_ne h]
    exact ⟨[], (List.append_nil s).symm, Or.inl ⟨rfl, h⟩⟩

/-- What a line loses when it is shown. -/
def ending (raw : List Char) : List Char := raw.drop (stripLine raw).length

/-- **THE END OF A LINE**: the line feed, if there is one, and one carriage return before it.
    A carriage return that is left stands before one that was taken off. -/
theorem ending_eq {body feed : List Char} (hbody : '\n' ∉ body) (hfeed : feed = ['\n'] ∨ feed = []) :
    stripLine (body ++ feed) ++ ending (body ++ feed) = body ++ feed
      ∧ '\n' ∉ stripLine (body ++ feed)
      ∧ ((ending (body ++ feed) = feed ∧ (stripLine (body ++ feed)).getLast? ≠ some '\r')
        ∨ ending (body ++ feed) = '\r' :: feed) := by
  have hstrip : stripLine (body ++ feed) = stripEnd '\r' body := by
    rcases hfeed with rfl | rfl
    · rw [stripLine, stripEnd_concat]
    · have hlast : body.getLast? ≠ some '\n' := fun hlast => hbody (List.mem_of_getLast? hlast)
      rw [List.append_nil, stripLine, stripEnd_of_ne hlast]
  obtain ⟨e, hsplit, he⟩ := exists_stripEnd '\r' body
  have hjoin : body ++ feed = stripEnd '\r' body ++ (e ++ feed) := by
    rw [← List.append_assoc, ← hsplit]
  have hending : ending (body ++ feed) = e ++ feed := by
    rw [ending, hstrip, hjoin, List.drop_left]
  rw [hending, hstrip, ← hjoin]
  refine ⟨rfl, fun hmem => hbody ?_, ?_⟩
  · rw [hsplit]
    exact List.mem_append_left e hmem
  · rcases he with ⟨rfl, hlast⟩ | rfl
    · exact Or.inl ⟨rfl, hlast⟩
    · exact Or.inr rfl

/-- The text that line `line` of a document loses when it is shown. -/
def endingOf (d : Document) (line : Nat) : String :=
  String.ofList (ending ((endedLines d.text.toList)[line - 1]?.getD []))

/-- A line and its end, by its number. -/
theorem exists_ended (d : Document) {line : Nat} (h : 1 ≤ line ∧ line ≤ d.lineCount) :
    ∃ raw, (endedLines d.text.toList)[line - 1]? = some raw
      ∧ d.line? line = some (String.ofList (stripLine raw))
      ∧ d.endingOf line = String.ofList (ending raw) := by
  obtain ⟨k, rfl⟩ := Nat.exists_eq_add_of_le' h.1
  have hk : k < (endedLines d.text.toList).length := lineCount_eq d ▸ h.2
  refine ⟨(endedLines d.text.toList)[k], List.getElem?_eq_getElem hk, ?_, ?_⟩
  · rw [line?_eq, List.getElem?_eq_getElem hk, Option.map_some]
  · rw [endingOf, Nat.add_sub_cancel, List.getElem?_eq_getElem hk, Option.getD_some]

/-- All lines by their numbers, from the first to the last. -/
theorem map_range'_lineCount {β : Type} (d : Document) {f : Nat → β} {g : List Char → β}
    (h : ∀ k raw, (endedLines d.text.toList)[k]? = some raw → f (k + 1) = g raw) :
    (List.range' 1 d.lineCount).map f = (endedLines d.text.toList).map g := by
  refine List.ext_getElem ?_ fun k hk hk' => ?_
  · rw [List.length_map, List.length_map, List.length_range', lineCount_eq]
  · rw [List.length_map] at hk'
    rw [List.getElem_map, List.getElem_map, List.getElem_range', Nat.one_mul, Nat.add_comm 1 k]
    exact h k _ (List.getElem?_eq_getElem hk')

/-- The list of all lines has them by their numbers. -/
theorem lines_eq (d : Document) :
    d.lines = (endedLines d.text.toList).map fun raw => String.ofList (stripLine raw) := by
  have hall : (List.range' 1 d.lineCount).map d.line?
      = (endedLines d.text.toList).map fun raw => some (String.ofList (stripLine raw)) := by
    refine map_range'_lineCount d fun k raw hraw => ?_
    rw [line?_eq, hraw, Option.map_some]
  show (List.range' 1 d.lineCount).filterMap (id ∘ d.line?) = _
  rw [← List.filterMap_map, hall, List.filterMap_map]
  exact congrFun (List.filterMap_eq_map (f := fun raw => String.ofList (stripLine raw))) _

/-- A line in the list is the line of its number. -/
theorem getElem?_lines (d : Document) (k : Nat) : d.lines[k]? = d.line? (k + 1) := by
  rw [lines_eq, line?_eq, List.getElem?_map]

/-- The lines and their ends, one after another, are the text. -/
theorem join_line?_endingOf (d : Document)
    (hended : ∀ raw ∈ endedLines d.text.toList, stripLine raw ++ ending raw = raw) :
    String.join ((List.range' 1 d.lineCount).map fun line =>
      (d.line? line).getD "" ++ d.endingOf line) = d.text := by
  have hlines : ((List.range' 1 d.lineCount).map fun line =>
      (d.line? line).getD "" ++ d.endingOf line) = (endedLines d.text.toList).map String.ofList := by
    refine map_range'_lineCount d fun k raw hraw => ?_
    rw [line?_eq, endingOf, Nat.add_sub_cancel, hraw, Option.map_some, Option.getD_some,
      Option.getD_some, ← String.ofList_append, hended raw (List.mem_of_getElem? hraw)]
  have htext : (String.join ((endedLines d.text.toList).map String.ofList)).toList
      = d.text.toList := by
    rw [String.toList_join, List.flatMap_map]
    simp only [String.toList_ofList]
    exact List.flatMap_id'.trans (flatten_endedLines _)
  rw [hlines]
  exact String.toList_inj.mp htext

/-- The shape of a line's end. -/
theorem shape_of_ending {s raw : List Char} {k : Nat} (h : (endedLines s)[k]? = some raw) :
    stripLine raw ++ ending raw = raw
      ∧ '\n' ∉ stripLine raw
      ∧ ((ending raw = ['\n'] ∨ ending raw = ['\r', '\n'])
        ∨ (k + 1 = (endedLines s).length ∧ (ending raw = [] ∨ ending raw = ['\r'])))
      ∧ ((stripLine raw).getLast? = some '\r' → '\r' ∈ ending raw) := by
  obtain ⟨body, hbody, hraw⟩ := shape_of_endedLines h
  have hreturn : ∀ feed, (ending raw = feed ∧ (stripLine raw).getLast? ≠ some '\r')
      ∨ ending raw = '\r' :: feed → (stripLine raw).getLast? = some '\r' → '\r' ∈ ending raw := by
    rintro feed (⟨-, hlast⟩ | hfeed) hreturn
    · exact absurd hreturn hlast
    · rw [hfeed]
      exact List.mem_cons_self
  rcases hraw with hraw | ⟨hraw, hlast⟩
  · obtain ⟨hjoin, hmem, hend⟩ := ending_eq hbody (Or.inl rfl)
    rw [← hraw] at hjoin hmem hend
    exact ⟨hjoin, hmem, Or.inl (hend.imp And.left id), hreturn _ hend⟩
  · have hnone : ([] : List Char) = ['\n'] ∨ ([] : List Char) = [] := Or.inr rfl
    obtain ⟨hjoin, hmem, hend⟩ := ending_eq hbody hnone
    rw [List.append_nil, ← hraw] at hjoin hmem hend
    exact ⟨hjoin, hmem, Or.inr ⟨hlast, hend.imp And.left id⟩, hreturn _ hend⟩

/-- Every line holds characters of the text, and no line feed among them. -/
theorem exists_line? (d : Document) {line : Nat} (h : 1 ≤ line ∧ line ≤ d.lineCount) :
    ∃ shown, d.line? line = some shown ∧ '\n' ∉ shown.toList
      ∧ shown.toList ⊆ d.text.toList := by
  obtain ⟨raw, hraw, hshown, -⟩ := d.exists_ended h
  obtain ⟨hjoin, hfeed, -⟩ := shape_of_ending hraw
  refine ⟨_, hshown, by rwa [String.toList_ofList], fun c hc => ?_⟩
  rw [String.toList_ofList] at hc
  have hc' : c ∈ raw := hjoin ▸ List.mem_append_left _ hc
  rw [← flatten_endedLines d.text.toList]
  exact List.mem_flatten_of_mem (List.mem_of_getElem? hraw) hc'

/-- **A TEXT IS ITS LINES AND THEIR ENDS**, whatever characters it holds.  It has a line for
    every line feed and one for what is left behind the last of them; exactly the lines of
    these numbers are there, and none of them holds a line feed.  Joined with what they lose
    when they are shown, they are the text: a line feed each, with or without one carriage
    return before it, and for the last line also nothing or a carriage return alone; a line
    that still ends at a carriage return has lost one.  Every line is cut out of the text in
    range and at boundaries of characters. -/
theorem text_is_lines_and_ends (d : Document) :
    d.lineCount = d.text.toList.count '\n'
        + (if d.text = "" ∨ d.text.toList.getLast? = some '\n' then 0 else 1)
      ∧ (∀ line, (d.line? line).isSome = true ↔ 1 ≤ line ∧ line ≤ d.lineCount)
      ∧ (∀ k, d.lines[k]? = d.line? (k + 1))
      ∧ (∀ line shown, d.line? line = some shown → '\n' ∉ shown.toList)
      ∧ (∃ ending : Nat → String,
          d.text = String.join ((List.range' 1 d.lineCount).map fun line =>
              (d.line? line).getD "" ++ ending line)
            ∧ ∀ line, 1 ≤ line ∧ line ≤ d.lineCount →
                (line < d.lineCount → ending line = "\n" ∨ ending line = "\r\n")
                  ∧ (ending line = "" ∨ ending line = "\n" ∨ ending line = "\r"
                    ∨ ending line = "\r\n")
                  ∧ ∀ shown, d.line? line = some shown →
                      shown.toList.getLast? = some '\r' → '\r' ∈ (ending line).toList)
      ∧ ∀ line, 1 ≤ line ∧ line ≤ d.lineCount →
          ∃ start raw, d.lineStarts[line - 1]? = some start
            ∧ Utf8.between? d.text start (d.lineStop d.lineStarts line) = some raw
            ∧ String.Pos.Raw.IsValid d.text ⟨start⟩
            ∧ String.Pos.Raw.IsValid d.text ⟨d.lineStop d.lineStarts line⟩
            ∧ start ≤ d.lineStop d.lineStarts line
            ∧ d.lineStop d.lineStarts line ≤ d.text.utf8ByteSize := by
  have hempty : (d.text = "" ∨ d.text.toList.getLast? = some '\n')
      ↔ (d.text.toList = [] ∨ d.text.toList.getLast? = some '\n') :=
    or_congr_left String.toList_eq_nil_iff.symm
  refine ⟨?_, d.isSome_line?, fun k => ?_, fun line shown hline => ?_, ⟨d.endingOf, ?_, ?_⟩, ?_⟩
  · simp only [hempty]
    rw [lineCount_eq, length_endedLines]
  · rw [lines_eq, line?_eq, List.getElem?_map]
  · obtain ⟨raw, hraw, hshown, -⟩ := d.exists_ended ((d.isSome_line? line).mp (by rw [hline]; rfl))
    obtain rfl := Option.some.inj (hshown.symm.trans hline)
    rw [String.toList_ofList]
    exact (shape_of_ending hraw).2.1
  · refine (d.join_line?_endingOf fun raw hmem => ?_).symm
    obtain ⟨k, hraw⟩ := List.mem_iff_getElem?.mp hmem
    exact (shape_of_ending hraw).1
  · intro line hline
    obtain ⟨raw, hraw, hshown, hending⟩ := d.exists_ended hline
    obtain ⟨-, -, hend, hreturn⟩ := shape_of_ending hraw
    rw [← lineCount_eq, Nat.sub_add_cancel hline.1] at hend
    rw [hending, hshown]
    refine ⟨fun hlt => ?_, ?_, ?_⟩
    · rcases hend with hend | ⟨hlast, -⟩
      · exact hend.imp (congrArg String.ofList) (congrArg String.ofList)
      · exact absurd hlast (Nat.ne_of_lt hlt)
    · rcases hend with (hfeed | hboth) | ⟨-, hnone | hcarriage⟩
      · exact Or.inr (Or.inl (congrArg String.ofList hfeed))
      · exact Or.inr (Or.inr (Or.inr (congrArg String.ofList hboth)))
      · exact Or.inl (congrArg String.ofList hnone)
      · exact Or.inr (Or.inr (Or.inl (congrArg String.ofList hcarriage)))
    · intro shown heq hlast
      obtain rfl := Option.some.inj heq
      rw [String.toList_ofList] at hlast ⊢
      exact hreturn hlast
  · intro line hline
    obtain ⟨raw, hraw, -⟩ := d.exists_ended hline
    obtain ⟨start, hstart, hcut⟩ := d.between?_lineStarts hraw
    rw [Nat.sub_add_cancel hline.1] at hcut
    obtain ⟨hvalid, hvalid', hle⟩ := Utf8.bounds_of_between? hcut
    exact ⟨start, _, hstart, hcut, hvalid, hvalid', hle, hvalid'.le_utf8ByteSize⟩

/-- Two carriage returns before a line feed, of which one is shown, a character of two bytes,
    an empty line, and a carriage return alone at the end. -/
theorem text_is_lines_and_ends_returns :
    let d : Document := ⟨"a.c", "a\r\r\né\n\nc\r"⟩
    d.lineCount = 4 ∧ d.line? 1 = some "a\r" ∧ (1 ≤ 4 ∧ 4 ≤ d.lineCount)
      ∧ (∃ ending : Nat → String,
          d.text = String.join ((List.range' 1 d.lineCount).map fun line =>
              (d.line? line).getD "" ++ ending line)
            ∧ '\r' ∈ (ending 1).toList
            ∧ (ending 4 = "" ∨ ending 4 = "\n" ∨ ending 4 = "\r" ∨ ending 4 = "\r\n"))
      ∧ ∃ start raw, d.lineStarts[3]? = some start
          ∧ Utf8.between? d.text start (d.lineStop d.lineStarts 4) = some raw := by
  intro d
  obtain ⟨hcount, -, -, -, ⟨ending, htext, hending⟩, hcut⟩ := text_is_lines_and_ends d
  have hfour : d.lineCount = 4 := hcount.trans (by decide)
  have hfirst : d.line? 1 = some "a\r" := (line?_eq d 0).trans (by decide)
  have hone : 1 ≤ 1 ∧ 1 ≤ d.lineCount := by rw [hfour]; decide
  have hlast : 1 ≤ 4 ∧ 4 ≤ d.lineCount := by rw [hfour]; decide
  obtain ⟨start, raw, hstart, hraw, -⟩ := hcut 4 hlast
  exact ⟨hfour, hfirst, hlast,
    ⟨ending, htext, (hending 1 hone).2.2 _ hfirst (by decide), (hending 4 hlast).2.1⟩,
    start, raw, hstart, hraw⟩

/-! ## Another way to find the lines -/

/-- The pieces of a text that its line feeds end, and the rest if there is any. -/
def rawLines (s : List Char) : List (List Char) :=
  let pieces := s.splitOn '\n'
  if pieces.getLast? = some [] then pieces.dropLast else pieces

theorem rawLines_feed (cs : List Char) : rawLines ('\n' :: cs) = [] :: rawLines cs := by
  rw [rawLines, rawLines, List.splitOn_cons_eq_if_modifyHead, beq_self_eq_true, if_pos rfl]
  cases hpieces : cs.splitOn '\n' with
  | nil => exact absurd hpieces (List.splitOn_ne_nil _ _)
  | cons piece rest =>
      rw [List.getLast?_cons_cons, List.dropLast_cons_cons, apply_ite (List.cons [])]

theorem rawLines_cons {c : Char} (h : c ≠ '\n') (cs : List Char) :
    rawLines (c :: cs) = (c :: (rawLines cs).headD []) :: (rawLines cs).tail := by
  rw [rawLines, rawLines, List.splitOn_cons_eq_if_modifyHead, beq_eq_false_iff_ne.mpr h,
    if_neg Bool.false_ne_true]
  cases hpieces : cs.splitOn '\n' with
  | nil => exact absurd hpieces (List.splitOn_ne_nil _ _)
  | cons piece rest =>
      rw [List.modifyHead_cons]
      cases rest with
      | nil =>
          rw [List.getLast?_singleton, List.getLast?_singleton, if_neg (by simp)]
          by_cases hpiece : piece = [] <;> simp [hpiece]
      | cons next rest =>
          rw [List.getLast?_cons_cons, List.getLast?_cons_cons, List.dropLast_cons_cons,
            List.dropLast_cons_cons]
          split <;> rfl

/-- They are the lines without their line feeds. -/
theorem rawLines_eq (s : List Char) : rawLines s = (endedLines s).map (stripEnd '\n') := by
  induction s with
  | nil => rfl
  | cons c cs ih =>
      by_cases hc : c = '\n'
      · rw [hc, rawLines_feed, endedLines_feed, List.map_cons, ih]
        rfl
      · rw [rawLines_cons hc, endedLines_cons hc, List.map_cons, stripEnd_cons hc, ih,
          List.map_tail]
        congr 2
        cases endedLines cs <;> rfl

/-- The lines of a document are as many as the pieces of its text. -/
theorem lineCount_eq_length_rawLines (d : Document) :
    d.lineCount = (rawLines d.text.toList).length := by
  rw [lineCount_eq, rawLines_eq, List.length_map]

end FindingsBrowser.Document
