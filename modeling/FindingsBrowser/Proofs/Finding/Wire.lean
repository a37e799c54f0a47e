import FindingsBrowser.Finding.Wire
import FindingsBrowser.Proofs.Json.Records

/-! # Findings on the wire — what is written is read

    Every variant has its slots, and reading a variant's record slot by slot gives the
    finding back.  The variant's own name stands in front and is taken off again, since
    no slot has the name `type`. -/

namespace FindingsBrowser

open Json

/-! ## Names from a fixed choice -/

theorem MutantStatus.choice?_name (s : MutantStatus) :
    choiceInFinding? MutantStatus.ofName? (.string s.name) = some s := by
  cases s <;> rfl

theorem Severity.choice?_name (s : Severity) :
    choiceInFinding? Severity.ofName? (.string s.name) = some s := by
  cases s <;> rfl

/-! ## Places -/

namespace Place

def numbers (p : Place) : List Nat := [p.first, p.last]

def slots (p : Place) : List (String × Option Json) :=
  [("file", some (.string p.file)), ("start", some (.ofNat p.first)), ("end", some (.ofNat p.last))]

theorem plain_toJson {room : Nat} {p : Place} (h : Words p.numbers) :
    Plain (room + 1) p.toJson := by
  simp only [numbers, words_cons] at h
  show Plain (room + 1) (.object (present p.slots))
  refine plain_present ?_
  simp [slots, plainSlot_some, Plain.string, plain_ofNat, h]

theorem ofJson?_toJson {p : Place} (h : Words p.numbers) : Place.ofJson? p.toJson = some p := by
  simp only [numbers, words_cons] at h
  rw [ofJson?]
  refine (record?_bind_present p.slots (by simp [slots]) _).trans ?_
  simp [slots, required, string?, word?_ofNat, h]

end Place

/-! ## Variants -/

namespace Finding

/-- The numbers of a finding. -/
def numbers : Finding → List Nat
  | coverage f => f.line :: f.arm.toList
  | complexity f => [f.first, f.last, f.value]
  | duplicate f => f.first :: f.last :: f.places.flatMap Place.numbers
  | mutant f => [f.line]
  | violation f => f.line :: f.column.toList

/-- The fields that a finding's variant knows, with the values of those it has. -/
def slots : Finding → List (String × Option Json)
  | coverage f =>
      [("line", some (.ofNat f.line)), ("covered", some (.bool f.covered)),
        ("index", f.arm.map .ofNat)]
  | complexity f =>
      [("start", some (.ofNat f.first)), ("end", some (.ofNat f.last)),
        ("value", some (.ofNat f.value)), ("function", f.function.map .string)]
  | duplicate f =>
      [("start", some (.ofNat f.first)), ("end", some (.ofNat f.last)),
        ("duplicateBlocks",
          if f.places.isEmpty then none else some (.array (f.places.map Place.toJson)))]
  | mutant f =>
      [("line", some (.ofNat f.line)), ("status", some (.string f.status.name)),
        ("mutator", some (.string f.mutator)), ("mutatedClass", some (.string f.className)),
        ("mutatedMethod", some (.string f.methodName)), ("killingTest", f.killer.map .string)]
  | violation f =>
      [("line", some (.ofNat f.line)), ("severity", some (.string f.severity.name)),
        ("ruleId", some (.string f.rule)), ("message", some (.string f.message)),
        ("tool", f.tool.map .string), ("column", f.column.map .ofNat),
        ("description", f.description.map .string)]

/-- A finding is written slot by slot. -/
theorem fields_eq_present (f : Finding) : f.fields = present f.slots := by
  cases f with
  | coverage f => rw [fields, whenPresent_eq]; rfl
  | complexity f => rw [fields, whenPresent_eq]; rfl
  | duplicate f =>
      rw [fields, slots]
      split <;> rfl
  | mutant f => rw [fields, whenPresent_eq]; rfl
  | violation f =>
      rw [fields, whenPresent_eq, whenPresent_eq, whenPresent_eq, List.append_assoc,
        List.append_assoc, ← present_append, ← present_append]
      rfl

theorem nodup_slots (f : Finding) : (f.slots.map Prod.fst).Nodup := by
  cases f <;> simp [slots]

/-- No slot has the name of the tag. -/
theorem type_not_mem_slots (f : Finding) : "type" ∉ f.slots.map Prod.fst := by
  cases f <;> simp [slots]

end Finding

theorem Coverage.ofJson?_slots {f : Coverage} (h : Words (Finding.coverage f).numbers) :
    Coverage.ofJson? (.object (present (Finding.coverage f).slots)) = some f := by
  simp only [Finding.numbers, words_cons] at h
  rw [ofJson?]
  refine (record?_bind_present _ (Finding.nodup_slots (.coverage f)) _).trans ?_
  simp [Finding.slots, required, bool?, word?_ofNat, optional_word?, h]

theorem Complexity.ofJson?_slots {f : Complexity} (h : Words (Finding.complexity f).numbers) :
    Complexity.ofJson? (.object (present (Finding.complexity f).slots)) = some f := by
  simp only [Finding.numbers, words_cons] at h
  rw [ofJson?]
  refine (record?_bind_present _ (Finding.nodup_slots (.complexity f)) _).trans ?_
  simp [Finding.slots, required, word?_ofNat, optional_string?, h]

/-- No places are left out, and nothing is read as no places. -/
theorem Duplicate.places_slot {f : Duplicate} (h : ∀ p ∈ f.places, Words p.numbers) :
    orDefault [] (list? Place.ofJson?)
      (if f.places.isEmpty then none else some (.array (f.places.map Place.toJson)))
        = some f.places := by
  split
  · case _ hempty => rw [orDefault, List.isEmpty_iff.mp hempty]
  · exact list?_map fun p hp => Place.ofJson?_toJson (h p hp)

theorem Duplicate.ofJson?_slots {f : Duplicate} (h : Words (Finding.duplicate f).numbers) :
    Duplicate.ofJson? (.object (present (Finding.duplicate f).slots)) = some f := by
  simp only [Finding.numbers, words_cons, words_flatMap] at h
  have hplaces := places_slot h.2.2
  rw [ofJson?]
  refine (record?_bind_present _ (Finding.nodup_slots (.duplicate f)) _).trans ?_
  simp [Finding.slots, required, word?_ofNat, h.1, h.2.1, hplaces, -List.isEmpty_iff]

theorem Mutant.ofJson?_slots {f : Mutant} (h : Words (Finding.mutant f).numbers) :
    Mutant.ofJson? (.object (present (Finding.mutant f).slots)) = some f := by
  simp only [Finding.numbers, words_cons] at h
  rw [ofJson?]
  refine (record?_bind_present _ (Finding.nodup_slots (.mutant f)) _).trans ?_
  simp [Finding.slots, required, orDefault, string?, word?_ofNat, optional_string?,
    f.status.choice?_name, h]

theorem Violation.ofJson?_slots {f : Violation} (h : Words (Finding.violation f).numbers) :
    Violation.ofJson? (.object (present (Finding.violation f).slots)) = some f := by
  simp only [Finding.numbers, words_cons] at h
  rw [ofJson?]
  refine (record?_bind_present _ (Finding.nodup_slots (.violation f)) _).trans ?_
  simp [Finding.slots, required, string?, word?_ofNat, optional_string?, optional_word?,
    f.severity.choice?_name, h]

/-! ## Findings -/

namespace Finding

/-- Every slot of a finding is plain. -/
theorem plain_slots {room : Nat} {f : Finding} (h : Words f.numbers) :
    ∀ slot ∈ f.slots, PlainSlot (room + 2) slot := by
  cases f with
  | coverage f =>
      simp only [numbers, words_cons] at h
      simp [slots, plainSlot_some, plainSlot_words, Plain.bool, plain_ofNat, h]
  | complexity f =>
      simp only [numbers, words_cons] at h
      simp [slots, plainSlot_some, plainSlot_string, plain_ofNat, h]
  | duplicate f =>
      simp only [numbers, words_cons, words_flatMap] at h
      have hplaces : PlainSlot (room + 2) ("duplicateBlocks",
          if f.places.isEmpty then none else some (.array (f.places.map Place.toJson))) := by
        split
        · exact fun _ => nofun
        · exact plainSlot_some (plain_list fun p hp => Place.plain_toJson (h.2.2 p hp)) _
      simp [slots, plainSlot_some, plain_ofNat, h.1, h.2.1, hplaces, -List.isEmpty_iff]
  | mutant f =>
      simp only [numbers, words_cons] at h
      simp [slots, plainSlot_some, plainSlot_string, Plain.string, plain_ofNat, h]
  | violation f =>
      simp only [numbers, words_cons] at h
      simp [slots, plainSlot_some, plainSlot_string, plainSlot_words, Plain.string, plain_ofNat, h]

/-- A finding is written behind the name of its variant. -/
theorem toJson_eq (f : Finding) :
    f.toJson = .object (("type", .string f.tag) :: present f.slots) := by
  rw [toJson, fields_eq_present]

theorem plain_toJson {room : Nat} {f : Finding} (h : Words f.numbers) :
    Plain (room + 3) f.toJson := by
  rw [toJson_eq, ← present_some]
  refine plain_present fun slot hslot => ?_
  rcases List.mem_cons.mp hslot with rfl | hslot
  · exact plainSlot_some (.string f.tag) "type"
  · exact plain_slots h slot hslot

/-- The record of a finding's variant is read as the finding. -/
theorem ofTagged?_slots {f : Finding} (h : Words f.numbers) :
    ofTagged? (.string f.tag) (.object (present f.slots)) = some f := by
  cases f with
  | coverage f => exact congrArg (Option.map coverage) (Coverage.ofJson?_slots h)
  | complexity f => exact congrArg (Option.map complexity) (Complexity.ofJson?_slots h)
  | duplicate f => exact congrArg (Option.map duplicate) (Duplicate.ofJson?_slots h)
  | mutant f => exact congrArg (Option.map mutant) (Mutant.ofJson?_slots h)
  | violation f => exact congrArg (Option.map violation) (Violation.ofJson?_slots h)

/-- **EVERY FINDING** is read as written. -/
theorem ofJson?_toJson {f : Finding} (h : Words f.numbers) : ofJson? f.toJson = some f := by
  have hplain : Plain 3 f.toJson := plain_toJson h
  have hreadable := hplain.readable
  -- the tag is the one field of its name, so it is found and taken off
  have hother : ∀ field ∈ present f.slots, field.1 ≠ "type" :=
    fun field hfield heq => type_not_mem_slots f (heq ▸ mem_names_of_mem_present hfield)
  have honce : occurrences "type" (("type", .string f.tag) :: present f.slots) = 1 := by
    have hzero := occurrences_eq_zero hother
    rw [occurrences] at hzero ⊢
    rw [List.countP_cons_of_pos (by rfl), hzero]
  have hrest : (("type", Json.string f.tag) :: present f.slots).filter
      (fun field => field.1 != "type") = present f.slots := by
    rw [List.filter_cons_of_neg (by simp), List.filter_eq_self]
    exact fun field hfield => by simpa using hother field hfield
  rw [toJson_eq] at hreadable ⊢
  rw [ofJson?, hreadable, Bool.not_true, if_neg Bool.false_ne_true, if_pos honce,
    field?_cons_self]
  show ofTagged? (.string f.tag) (.object (List.filter (fun field => field.1 != "type") _)) = _
  rw [hrest]
  exact ofTagged?_slots h

end Finding

end FindingsBrowser
