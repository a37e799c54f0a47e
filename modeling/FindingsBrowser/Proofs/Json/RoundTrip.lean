import FindingsBrowser.Proofs.Json.Numbers
import FindingsBrowser.Proofs.Json.Strings

/-! # JSON values — parsing undoes printing

    A plain value holds nothing that the reader would have to give up on: no unreadable
    part, no number without a value, no deeper nesting than there is room for.  Its text
    is read back with as much fuel as the text has characters, since every step of the
    reader takes at least one. -/

namespace FindingsBrowser.Json

/-- A value without parts that cannot be read, nested at most `room` deep. -/
inductive Plain : (room : Nat) → Json → Prop where
  | null {room : Nat} : Plain room .null
  | bool {room : Nat} (b : Bool) : Plain room (.bool b)
  | number {room : Nat} {n : Number} (written : n.WellFormed)
      (valued : n.toBinary64?.isSome = true) : Plain room (.number n)
  | string {room : Nat} (s : String) : Plain room (.string s)
  | array {room : Nat} {items : List Json} (plain : ∀ j ∈ items, Plain room j) :
      Plain (room + 1) (.array items)
  | object {room : Nat} {fields : List (String × Json)}
      (plain : ∀ field ∈ fields, Plain room field.2) : Plain (room + 1) (.object fields)

/-! ## Readable values -/

theorem readableItems_of_forall {items : List Json} (h : ∀ j ∈ items, j.readable = true) :
    readableItems items = true := by
  induction items with
  | nil => rfl
  | cons j js ih =>
      rw [readableItems, h j List.mem_cons_self, Bool.true_and]
      exact ih fun i hi => h i (List.mem_cons_of_mem _ hi)

theorem readableFields_of_forall {fields : List (String × Json)}
    (h : ∀ field ∈ fields, field.2.readable = true) : readableFields fields = true := by
  induction fields with
  | nil => rfl
  | cons field fields ih =>
      obtain ⟨k, j⟩ := field
      rw [readableFields, h (k, j) List.mem_cons_self, Bool.true_and]
      exact ih fun f hf => h f (List.mem_cons_of_mem _ hf)

/-- Every part of a plain value is readable. -/
theorem Plain.readable {room : Nat} {j : Json} (h : Plain room j) : j.readable = true := by
  induction h with
  | null => rfl
  | bool b => rfl
  | number written valued => rfl
  | string s => rfl
  | array plain ih => exact readableItems_of_forall ih
  | object plain ih => exact readableFields_of_forall ih

/-! ## The first character of a value -/

/-- A character that a value can start with: no blank, and not the end of a list. -/
def Starts (c : Char) : Prop := c ∉ [' ', '\n', '\t', '\r', ']']

instance (c : Char) : Decidable (Starts c) := inferInstanceAs (Decidable (c ∉ _))

theorem skipSpace_cons {c : Char} (h : Starts c) (s : List Char) :
    skipSpace (c :: s) = c :: s := by
  refine if_neg fun hblank => h ?_
  rcases hblank with rfl | rfl | rfl | rfl <;> simp

theorem Follows.skipSpace {rest : List Char} (h : Follows rest) : skipSpace rest = rest := by
  cases rest with
  | nil => rfl
  | cons c s => rcases h c rfl with rfl | rfl | rfl <;> rfl

/-- A literal starts with its sign or a digit. -/
theorem number_write_cons (n : Number) :
    ∃ c s, n.write = c :: s ∧ (c = '-' ∨ c.isDigit = true) := by
  obtain ⟨d, ds, hcons, hd⟩ := writeNatural_cons n.whole
  obtain ⟨ds', hjoin⟩ := Binary64.joinPoint_cons d ds n.fraction
  rw [write_eq, hcons, hjoin, List.cons_append]
  cases n.negative with
  | true => exact ⟨'-', _, rfl, Or.inl rfl⟩
  | false => exact ⟨d, _, rfl, Or.inr hd⟩

/-- A sign or a digit is none of the other characters that tell values apart. -/
theorem ne_of_literal {c d : Char} (hc : c = '-' ∨ c.isDigit = true)
    (hd : d ≠ '-' ∧ d.isDigit = false) : c ≠ d := by
  rintro rfl
  rcases hc with hsign | hdigit
  · exact hd.1 hsign
  · exact Bool.false_ne_true (hd.2.symm.trans hdigit)

theorem starts_of_literal {c : Char} (hc : c = '-' ∨ c.isDigit = true) : Starts c := by
  refine List.forall_mem_ne.mp fun d hd => ?_
  have hother : [' ', '\n', '\t', '\r', ']'].all fun d => d ≠ '-' ∧ d.isDigit = false := by
    decide
  exact ne_of_literal hc (of_decide_eq_true (List.all_eq_true.mp hother d hd))

theorem write_cons (j : Json) : ∃ c s, j.write = c :: s ∧ Starts c := by
  cases j with
  | null => exact ⟨'n', _, rfl, by decide⟩
  | bool b =>
      cases b with
      | true => exact ⟨'t', _, rfl, by decide⟩
      | false => exact ⟨'f', _, rfl, by decide⟩
  | number n =>
      obtain ⟨c, s, hwrite, hc⟩ := number_write_cons n
      exact ⟨c, s, hwrite, starts_of_literal hc⟩
  | string s => exact ⟨'"', _, rfl, by decide⟩
  | array items =>
      cases items with
      | nil => exact ⟨'[', _, by rw [write], by decide⟩
      | cons j js => exact ⟨'[', _, by rw [write], by decide⟩
  | object fields =>
      cases fields with
      | nil => exact ⟨'{', _, by rw [write], by decide⟩
      | cons field fields => exact ⟨'{', _, by rw [write], by decide⟩
  | unreadable => exact ⟨'n', _, rfl, by decide⟩

/-- Fuel for the text of a value is fuel for one step at least. -/
theorem exists_fuel {j : Json} {fuel : Nat} (h : j.write.length ≤ fuel) : ∃ f, fuel = f + 1 := by
  obtain ⟨c, s, hwrite, -⟩ := write_cons j
  rw [hwrite, List.length_cons] at h
  exact ⟨fuel - 1, by omega⟩

/-! ## Reading what is written -/

/-- The text of a value is read back, whatever can follow it. -/
def Reads (room : Nat) (j : Json) : Prop :=
  ∀ fuel rest, Follows rest → j.write.length ≤ fuel →
    readValue fuel room (j.write ++ rest) = some (j, rest)

/-- A value that starts like a literal is read as one. -/
theorem readValue_literal {c : Char} (hc : c = '-' ∨ c.isDigit = true) (fuel room : Nat)
    (s : List Char) :
    readValue (fuel + 1) room (c :: s)
      = (readNumber (c :: s)).map fun (n, s) => (ofLiteral n, s) := by
  have hn : c ≠ 'n' := ne_of_literal hc (by decide)
  have ht : c ≠ 't' := ne_of_literal hc (by decide)
  have hf : c ≠ 'f' := ne_of_literal hc (by decide)
  have hquote : c ≠ '"' := ne_of_literal hc (by decide)
  have hlist : c ≠ '[' := ne_of_literal hc (by decide)
  have hobject : c ≠ '{' := ne_of_literal hc (by decide)
  rw [readValue, skipSpace_cons (starts_of_literal hc)]
  split <;> simp_all

theorem reads_number {room : Nat} {n : Number} (hn : n.WellFormed)
    (hvalue : n.toBinary64?.isSome = true) : Reads room (.number n) := by
  intro fuel rest hrest hfuel
  obtain ⟨fuel, rfl⟩ := exists_fuel hfuel
  obtain ⟨c, s, hwrite, hc⟩ := number_write_cons n
  have hread := readNumber_write hn hrest
  rw [hwrite, List.cons_append] at hread
  rw [write, hwrite, List.cons_append, readValue_literal hc, hread]
  dsimp only [Option.map_some]
  rw [ofLiteral, if_pos hvalue]

theorem reads_string (room : Nat) (s : String) : Reads room (.string s) := by
  intro fuel rest hrest hfuel
  obtain ⟨fuel, rfl⟩ := exists_fuel hfuel
  have hread := readString_quoted s rest
  rw [write, quote, List.cons_append, List.append_assoc, List.singleton_append, readValue]
  show (readString _).map _ = _
  rw [hread]
  rfl

/-- **ITEMS** are read back one after another, up to the closing bracket. -/
theorem readItems_write {room : Nat} {items : List Json} :
    ∀ {j : Json} {fuel : Nat}, (∀ i ∈ j :: items, Reads room i) →
      (j.write ++ writeItems items).length ≤ fuel → ∀ rest,
      readItems fuel room (j.write ++ writeItems items ++ rest) = some (j :: items, rest) := by
  -- on the items behind the first: each takes one step and at least one character
  induction items with
  | nil =>
      intro j fuel hreads hfuel rest
      rw [writeItems, List.length_append, List.length_singleton] at hfuel
      obtain ⟨fuel, rfl⟩ : ∃ f, fuel = f + 1 := ⟨fuel - 1, by omega⟩
      have hj := hreads j List.mem_cons_self fuel (']' :: rest)
        (follows_cons (Or.inr (Or.inl rfl)) rest) (by omega)
      rw [writeItems, List.append_assoc, List.singleton_append, readItems, hj]
      rfl
  | cons i items ih =>
      intro j fuel hreads hfuel rest
      rw [writeItems, List.length_append, List.length_cons] at hfuel
      obtain ⟨fuel, rfl⟩ : ∃ f, fuel = f + 1 := ⟨fuel - 1, by omega⟩
      have hj := hreads j List.mem_cons_self fuel
        (',' :: (i.write ++ writeItems items ++ rest)) (follows_cons (Or.inl rfl) _) (by omega)
      have hitems := ih (fun i hi => hreads i (List.mem_cons_of_mem _ hi))
        (by omega : (i.write ++ writeItems items).length ≤ fuel) rest
      rw [writeItems, List.append_assoc, List.cons_append, readItems, hj]
      show (readItems fuel room _).bind _ = _
      rw [hitems]
      rfl

/-- The text of a field: its name, a colon and its value. -/
def fieldText (field : String × Json) : List Char :=
  quote field.1.toList ++ ':' :: field.2.write

/-- How the reader goes on behind the value of a field. -/
def readBehind (fuel room : Nat) (field : String × Json) :
    List Char → Option (List (Option String × Json) × List Char)
  | ',' :: s => do
      let (fields, s) ← readFields fuel room s
      pure ((some field.1, field.2) :: fields, s)
  | '}' :: s => some ([(some field.1, field.2)], s)
  | _ => none

/-- One field is read back. -/
theorem readFields_fieldText {fuel room : Nat} {field : String × Json} {rest : List Char}
    (h : Reads room field.2) (hrest : Follows rest) (hfuel : field.2.write.length ≤ fuel) :
    readFields (fuel + 1) room (fieldText field ++ rest) = readBehind fuel room field rest := by
  obtain ⟨k, j⟩ := field
  have hname := readString_quoted k (':' :: (j.write ++ rest))
  rw [fieldText, quote, List.append_assoc, List.cons_append, List.append_assoc,
    List.singleton_append, List.cons_append, readFields]
  show (readString _).bind _ = _
  rw [hname]
  show (readValue fuel room _).bind _ = _
  rw [h fuel rest hrest hfuel]
  show readBehind fuel room (k, j) (skipSpace rest) = _
  rw [hrest.skipSpace]

/-- **FIELDS** are read back one after another, up to the closing brace. -/
theorem readFields_write {room : Nat} {fields : List (String × Json)} :
    ∀ {field : String × Json} {fuel : Nat}, (∀ f ∈ field :: fields, Reads room f.2) →
      (fieldText field ++ writeFields fields).length ≤ fuel → ∀ rest,
      readFields fuel room (fieldText field ++ writeFields fields ++ rest)
        = some ((field :: fields).map fun f => (some f.1, f.2), rest) := by
  induction fields with
  | nil =>
      intro field fuel hreads hfuel rest
      rw [writeFields, List.length_append, List.length_singleton, fieldText, List.length_append,
        List.length_cons] at hfuel
      obtain ⟨fuel, rfl⟩ : ∃ f, fuel = f + 1 := ⟨fuel - 1, by omega⟩
      rw [writeFields, List.append_assoc, List.singleton_append,
        readFields_fieldText (hreads field List.mem_cons_self)
          (follows_cons (Or.inr (Or.inr rfl)) rest) (by omega)]
      rfl
  | cons next fields ih =>
      intro field fuel hreads hfuel rest
      have hnext : writeFields (next :: fields)
          = ',' :: (fieldText next ++ writeFields fields) := by
        obtain ⟨k, j⟩ := next
        rw [writeFields, fieldText, List.append_assoc, List.cons_append]
      rw [hnext, List.length_append, List.length_cons, fieldText, List.length_append,
        List.length_cons] at hfuel
      obtain ⟨fuel, rfl⟩ : ∃ f, fuel = f + 1 := ⟨fuel - 1, by omega⟩
      have hfields := ih (fun f hf => hreads f (List.mem_cons_of_mem _ hf))
        (by omega : (fieldText next ++ writeFields fields).length ≤ fuel) rest
      rw [hnext, List.append_assoc, List.cons_append,
        readFields_fieldText (hreads field List.mem_cons_self) (follows_cons (Or.inl rfl) _)
          (by omega), readBehind, hfields]
      rfl

/-- Reading undoes writing for a list, if it does for every item. -/
theorem mapM_map_eq_some {α β : Type} {read : β → Option α} {write : α → β} {items : List α}
    (h : ∀ a ∈ items, read (write a) = some a) : (items.map write).mapM read = some items := by
  induction items with
  | nil => rfl
  | cons a items ih =>
      rw [List.map_cons, List.mapM_cons, h a List.mem_cons_self,
        ih fun b hb => h b (List.mem_cons_of_mem _ hb)]
      rfl

/-- Fields whose names are texts make up the object. -/
theorem ofFields_map_some (fields : List (String × Json)) :
    ofFields (fields.map fun f => (some f.1, f.2)) = .object fields := by
  have hnames : (fields.map fun f => (some f.1, f.2)).mapM
      (fun f : Option String × Json => f.1.map fun name => (name, f.2)) = some fields :=
    mapM_map_eq_some fun field _ => rfl
  rw [ofFields]
  split
  · case _ heq => rw [Option.some.inj (hnames.symm.trans heq)]
  · case _ heq => cases hnames.symm.trans heq

/-- How the reader goes on behind the opening bracket of a list. -/
def readOpened (fuel room : Nat) : List Char → Option (Json × List Char)
  | ']' :: s => some (.array [], s)
  | s => (readItems fuel room s).map fun p => (.array p.1, p.2)

theorem readValue_bracket (fuel room : Nat) (s : List Char) :
    readValue (fuel + 1) (room + 1) ('[' :: s) = readOpened fuel room (skipSpace s) :=
  rfl

theorem reads_array {room : Nat} {items : List Json} (h : ∀ j ∈ items, Reads room j) :
    Reads (room + 1) (.array items) := by
  intro fuel rest hrest hfuel
  obtain ⟨fuel, rfl⟩ := exists_fuel hfuel
  cases items with
  | nil =>
      rw [write]
      rfl
  | cons j js =>
      rw [write, List.length_cons] at hfuel
      have hitems := readItems_write h (by omega : (j.write ++ writeItems js).length ≤ fuel) rest
      obtain ⟨c, s, hwrite, hc⟩ := write_cons j
      rw [hwrite, List.cons_append, List.cons_append] at hitems
      rw [write, hwrite, List.cons_append, List.cons_append, List.cons_append, readValue_bracket,
        skipSpace_cons hc, readOpened, hitems]
      · rfl
      · intro s' heq
        rw [(List.cons.inj heq).1] at hc
        exact absurd hc (by decide)

theorem reads_object {room : Nat} {fields : List (String × Json)}
    (h : ∀ field ∈ fields, Reads room field.2) : Reads (room + 1) (.object fields) := by
  intro fuel rest hrest hfuel
  obtain ⟨fuel, rfl⟩ := exists_fuel hfuel
  cases fields with
  | nil =>
      rw [write]
      rfl
  | cons field fields =>
      have hwrite : write (.object (field :: fields))
          = '{' :: (fieldText field ++ writeFields fields) := by
        obtain ⟨k, j⟩ := field
        rw [write, fieldText, List.append_assoc, List.cons_append]
      rw [hwrite, List.length_cons] at hfuel
      have hfields := readFields_write h
        (by omega : (fieldText field ++ writeFields fields).length ≤ fuel) rest
      rw [hwrite, List.cons_append, readValue]
      show (readFields fuel room (fieldText field ++ writeFields fields ++ rest)).map _ = _
      rw [hfields]
      dsimp only [Option.map_some]
      rw [ofFields_map_some]
      rfl

/-- **EVERY PLAIN VALUE** is read back from its text. -/
theorem Plain.reads {room : Nat} {j : Json} (h : Plain room j) : Reads room j := by
  induction h with
  | null =>
      intro fuel rest hrest hfuel
      obtain ⟨fuel, rfl⟩ := exists_fuel hfuel
      rfl
  | bool b =>
      intro fuel rest hrest hfuel
      obtain ⟨fuel, rfl⟩ := exists_fuel hfuel
      cases b with
      | true => rfl
      | false => rfl
  | number written valued => exact reads_number written valued
  | string s => exact reads_string _ s
  | array plain ih => exact reads_array ih
  | object plain ih => exact reads_object ih

/-- **PARSING UNDOES PRINTING** for every plain value. -/
theorem parse_print {j : Json} (h : Plain maxNesting j) : parse j.print = some j := by
  have hread := h.reads (2 * j.write.length + 1) [] follows_nil (by omega)
  rw [List.append_nil] at hread
  rw [parse, print, String.toList_ofList]
  dsimp only
  rw [hread]
  rfl

end FindingsBrowser.Json
