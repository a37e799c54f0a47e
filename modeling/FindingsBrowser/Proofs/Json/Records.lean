import FindingsBrowser.Json.Record
import FindingsBrowser.Proofs.Json.RoundTrip
import Mathlib.Data.List.Nodup

/-! # JSON records — fields written are fields found

    A record is written from slots: a name for every field that it knows, with the value
    of those that it has.  The reader asks for the same names and gets the slots back,
    whatever is left out and whatever stands in between under other names. -/

namespace FindingsBrowser.Json

/-- The fields of a record that are there. -/
def present (slots : List (String × Option Json)) : List (String × Json) :=
  slots.filterMap fun slot => slot.2.map fun j => (slot.1, j)

variable {α : Type}

/-! ## Slots -/

theorem present_some (name : String) (j : Json) (slots : List (String × Option Json)) :
    present ((name, some j) :: slots) = (name, j) :: present slots := rfl

theorem present_append (slots more : List (String × Option Json)) :
    present (slots ++ more) = present slots ++ present more :=
  List.filterMap_append

/-- A field that is left out without a value is a slot. -/
theorem whenPresent_eq (name : String) (write : α → Json) (value : Option α) :
    whenPresent name write value = present [(name, value.map write)] := by
  cases value with
  | none => rfl
  | some a => rfl

/-- What is there stands in a slot. -/
theorem mem_slots_of_mem_present {slots : List (String × Option Json)} {field : String × Json}
    (h : field ∈ present slots) : (field.1, some field.2) ∈ slots := by
  obtain ⟨⟨name, value⟩, hmem, hfield⟩ := List.mem_filterMap.mp h
  obtain ⟨j, rfl, rfl⟩ := Option.map_eq_some_iff.mp hfield
  exact hmem

theorem mem_names_of_mem_present {slots : List (String × Option Json)} {field : String × Json}
    (h : field ∈ present slots) : field.1 ∈ slots.map Prod.fst :=
  List.mem_map.mpr ⟨_, mem_slots_of_mem_present h, rfl⟩

/-! ## Finding fields -/

theorem field?_cons_self (name : String) (j : Json) (fields : List (String × Json)) :
    field? name ((name, j) :: fields) = some j := by
  rw [field?, List.find?_cons_of_pos (by simp)]
  rfl

theorem field?_cons_of_ne {name other : String} (h : other ≠ name) (j : Json)
    (fields : List (String × Json)) : field? name ((other, j) :: fields) = field? name fields := by
  rw [field?, List.find?_cons_of_neg (by simpa using h), field?]

theorem field?_eq_none {name : String} {fields : List (String × Json)}
    (h : ∀ field ∈ fields, field.1 ≠ name) : field? name fields = none := by
  rw [field?, List.find?_eq_none.mpr fun field hfield => by simpa using h field hfield]
  rfl

theorem occurrences_eq_zero {name : String} {fields : List (String × Json)}
    (h : ∀ field ∈ fields, field.1 ≠ name) : occurrences name fields = 0 :=
  List.countP_eq_zero.mpr fun field hfield => by simpa using h field hfield

/-- **SLOTS ARE FOUND**: under names that differ, every name leads to its slot. -/
theorem field?_present {slots : List (String × Option Json)}
    (hnodup : (slots.map Prod.fst).Nodup) :
    (slots.map Prod.fst).map (field? · (present slots)) = slots.map Prod.snd := by
  induction slots with
  | nil => rfl
  | cons slot slots ih =>
      obtain ⟨name, value⟩ := slot
      rw [List.map_cons, List.nodup_cons] at hnodup
      obtain ⟨hname, hnodup⟩ := hnodup
      -- the first slot hides no other, since no other has its name
      have hother : ∀ other ∈ slots.map Prod.fst,
          field? other (present ((name, value) :: slots)) = field? other (present slots) := by
        intro other hmem
        cases value with
        | none => rfl
        | some j =>
            refine field?_cons_of_ne ?_ j (present slots)
            rintro rfl
            exact hname hmem
      have hself : field? name (present ((name, value) :: slots)) = value := by
        cases value with
        | none =>
            refine field?_eq_none fun field hfield heq => hname ?_
            exact heq ▸ mem_names_of_mem_present hfield
        | some j => exact field?_cons_self name j (present slots)
      rw [List.map_cons, List.map_cons, List.map_cons, hself, List.map_congr_left hother, ih hnodup]

/-- Under names that differ, nothing is there twice. -/
theorem occurrences_present_le {slots : List (String × Option Json)}
    (hnodup : (slots.map Prod.fst).Nodup) (name : String) :
    occurrences name (present slots) ≤ 1 := by
  induction slots with
  | nil => exact Nat.zero_le 1
  | cons slot slots ih =>
      obtain ⟨other, value⟩ := slot
      rw [List.map_cons, List.nodup_cons] at hnodup
      cases value with
      | none => exact ih hnodup.2
      | some j =>
          rw [present_some, occurrences, List.countP_cons]
          by_cases heq : other = name
          · subst heq
            have hzero : occurrences other (present slots) = 0 := by
              refine occurrences_eq_zero fun field hfield heq => hnodup.1 ?_
              exact heq ▸ mem_names_of_mem_present hfield
            rw [occurrences] at hzero
            rw [hzero, Nat.zero_add]
            exact (if_pos (beq_self_eq_true other)).le
          · rw [if_neg (by simpa using heq)]
            exact ih hnodup.2

/-- **RECORDS** are read slot by slot. -/
theorem record?_present (closed : Bool) (slots : List (String × Option Json))
    (hnodup : (slots.map Prod.fst).Nodup) :
    record? closed (slots.map Prod.fst) (.object (present slots))
      = some (slots.map Prod.snd) := by
  have honce : (slots.map Prod.fst).any (fun n => 1 < occurrences n (present slots)) = false := by
    rw [List.any_eq_false]
    intro name _
    have hle := occurrences_present_le hnodup name
    rw [decide_eq_true_eq]
    omega
  rw [record?, honce, if_neg Bool.false_ne_true, field?_present hnodup]
  refine if_neg fun hclosed => ?_
  rw [Bool.and_eq_true, List.any_eq_true] at hclosed
  obtain ⟨-, field, hfield, hunknown⟩ := hclosed
  have hname : (!(slots.map Prod.fst).contains field.1) = true := hunknown
  rw [List.contains_iff_mem.mpr (mem_names_of_mem_present hfield)] at hname
  exact Bool.false_ne_true hname

/-- A reader of the fields of a record gets the values of its slots. -/
theorem record?_bind_present (slots : List (String × Option Json))
    (hnodup : (slots.map Prod.fst).Nodup) (next : List (Option Json) → Option α) :
    (record? false (slots.map Prod.fst) (.object (present slots))).bind next
      = next (slots.map Prod.snd) := by
  rw [record?_present false slots hnodup, Option.bind_some]

/-- A record that is not closed is read past a field of another name. -/
theorem record?_cons_of_not_mem {names : List String} {name : String} (h : name ∉ names)
    (j : Json) (fields : List (String × Json)) :
    record? false names (.object ((name, j) :: fields)) = record? false names (.object fields) := by
  have hne : ∀ n ∈ names, name ≠ n := fun n hn heq => h (heq ▸ hn)
  have hcount : ∀ n ∈ names, occurrences n ((name, j) :: fields) = occurrences n fields := by
    intro n hn
    exact List.countP_cons_of_neg (by simpa using hne n hn)
  have hany : names.any (fun n => 1 < occurrences n ((name, j) :: fields))
      = names.any (fun n => 1 < occurrences n fields) := by
    rw [Bool.eq_iff_iff, List.any_eq_true, List.any_eq_true]
    constructor
    · rintro ⟨n, hn, hlt⟩
      exact ⟨n, hn, hcount n hn ▸ hlt⟩
    · rintro ⟨n, hn, hlt⟩
      exact ⟨n, hn, (hcount n hn).symm ▸ hlt⟩
  have hfields : names.map (field? · ((name, j) :: fields)) = names.map (field? · fields) :=
    List.map_congr_left fun n hn => field?_cons_of_ne (hne n hn) j fields
  rw [record?, record?, hany, hfields, Bool.false_and, Bool.false_and]

/-! ## Numbers of a value -/

/-- Numbers of 64 bits. -/
def Words (ns : List Nat) : Prop := ∀ n ∈ ns, n < Text.wordLimit

theorem words_cons {n : Nat} {ns : List Nat} :
    Words (n :: ns) ↔ n < Text.wordLimit ∧ Words ns :=
  List.forall_mem_cons

theorem words_append {ns ms : List Nat} : Words (ns ++ ms) ↔ Words ns ∧ Words ms :=
  List.forall_mem_append

theorem words_flatMap {numbers : α → List Nat} {items : List α} :
    Words (items.flatMap numbers) ↔ ∀ a ∈ items, Words (numbers a) :=
  List.forall_mem_flatMap

/-- Binary64 numbers that their literals give back. -/
def AllReadBack (xs : List Binary64) : Prop := ∀ x ∈ xs, ReadsBack x

theorem allReadBack_cons {x : Binary64} {xs : List Binary64} :
    AllReadBack (x :: xs) ↔ ReadsBack x ∧ AllReadBack xs :=
  List.forall_mem_cons

theorem allReadBack_flatMap {floats : α → List Binary64} {items : List α} :
    AllReadBack (items.flatMap floats) ↔ ∀ a ∈ items, AllReadBack (floats a) :=
  List.forall_mem_flatMap

/-! ## Reading fields -/

theorem word?_ofNat {n : Nat} (h : n < Text.wordLimit) : word? (.ofNat n) = some n :=
  natural?_ofNat h

theorem binary64?_ofBinary64 {x : Binary64} (h : ReadsBack x) :
    binary64? (.ofBinary64 x) = some x := by
  rw [Json.ofBinary64, if_pos h.1]
  exact h.2

/-- A list is read if every item is. -/
theorem list?_map {read : Json → Option α} {write : α → Json} {items : List α}
    (h : ∀ a ∈ items, read (write a) = some a) :
    list? read (.array (items.map write)) = some items :=
  mapM_map_eq_some h

/-- A field that may be missing is read, present or not, if no value of it is `null`. -/
theorem optional_map {read : Json → Option α} {write : α → Json} {value : Option α}
    (hnull : ∀ a, write a ≠ .null) (h : ∀ a ∈ value, read (write a) = some a) :
    optional read (value.map write) = some value := by
  cases value with
  | none => rfl
  | some a =>
      rw [Option.map_some, optional]
      · rw [h a rfl]
        rfl
      · exact hnull a

theorem optional_word? {value : Option Nat} (h : Words value.toList) :
    optional word? (value.map .ofNat) = some value :=
  optional_map (fun _ => nofun) fun n hn => word?_ofNat (h n (Option.mem_toList.mpr hn))

theorem optional_string? (value : Option String) :
    optional string? (value.map .string) = some value :=
  optional_map (fun _ => nofun) fun _ _ => rfl

/-! ## Plain records -/

theorem plain_ofNat {room n : Nat} (h : n < Text.wordLimit) : Plain room (.ofNat n) := by
  refine .number (wellFormed_ofNat n) ?_
  rw [toBinary64?_ofNat h]
  rfl

theorem plain_ofBinary64 {room : Nat} {x : Binary64} (h : ReadsBack x) :
    Plain room (.ofBinary64 x) := by
  rw [Json.ofBinary64, if_pos h.1]
  refine .number (wellFormed_ofBinary64 x) ?_
  rw [h.2]
  rfl

theorem plain_list {room : Nat} {write : α → Json} {items : List α}
    (h : ∀ a ∈ items, Plain room (write a)) : Plain (room + 1) (.array (items.map write)) := by
  refine .array fun j hj => ?_
  obtain ⟨a, ha, rfl⟩ := List.mem_map.mp hj
  exact h a ha

/-- A slot is plain if its value is, or if it has none. -/
def PlainSlot (room : Nat) (slot : String × Option Json) : Prop := ∀ j ∈ slot.2, Plain room j

theorem plainSlot_some {room : Nat} {j : Json} (h : Plain room j) (name : String) :
    PlainSlot room (name, some j) := by
  intro j' hj
  obtain rfl := Option.mem_some.mp hj
  exact h

theorem plainSlot_map {room : Nat} {write : α → Json} {value : Option α}
    (h : ∀ a ∈ value, Plain room (write a)) (name : String) :
    PlainSlot room (name, value.map write) := by
  intro j hj
  obtain ⟨a, ha, rfl⟩ := Option.mem_map.mp hj
  exact h a ha

theorem plainSlot_words {room : Nat} {value : Option Nat} (h : Words value.toList)
    (name : String) : PlainSlot room (name, value.map .ofNat) :=
  plainSlot_map (fun n hn => plain_ofNat (h n (Option.mem_toList.mpr hn))) name

theorem plainSlot_string {room : Nat} (value : Option String) (name : String) :
    PlainSlot room (name, value.map .string) :=
  plainSlot_map (fun s _ => .string s) name

/-- A record is plain if its slots are. -/
theorem plain_present {room : Nat} {slots : List (String × Option Json)}
    (h : ∀ slot ∈ slots, PlainSlot room slot) : Plain (room + 1) (.object (present slots)) :=
  .object fun _ hfield => h _ (mem_slots_of_mem_present hfield) _ rfl

/-! ## Texts -/

/-- The text of a value is read as what was written. -/
def Restores (read : Json → Option α) (j : Json) (a : α) : Prop :=
  (parse j.print).bind read = some a

theorem Plain.restores {read : Json → Option α} {j : Json} {a : α}
    (h : Plain maxNesting j) (hread : read j = some a) : Restores read j a := by
  rw [Restores, parse_print h, Option.bind_some, hread]

end FindingsBrowser.Json
