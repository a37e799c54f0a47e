import FindingsBrowser.Json.Parser
import FindingsBrowser.Json.Printer

/-! # JSON records — objects and lists read by field names

    A record is written as an object, or as the list of its fields in order.
    `record?` finds the named fields; the field readers then say what a missing
    one means: `required` refuses, `optional` and `orDefault` supply a value.
    Only `optional` takes `null` for a missing field. -/

namespace FindingsBrowser.Json

/-- The first field of a name. -/
def field? (name : String) (fields : List (String × Json)) : Option Json :=
  (fields.find? fun (k, _) => k == name).map Prod.snd

/-- How often a field name occurs. -/
def occurrences (name : String) (fields : List (String × Json)) : Nat :=
  fields.countP fun (k, _) => k == name

/-- The values of the fields `names` of a record. An object may repeat none of
    them, and if the record is `closed` it may hold no other field. A list may
    leave out fields at the end and hold no surplus. -/
def record? (closed : Bool) (names : List String) : Json → Option (List (Option Json))
  | .object fields =>
      if names.any (fun n => 1 < occurrences n fields) then none
      else if closed && fields.any (fun (k, _) => !names.contains k) then none
      else some (names.map fun n => field? n fields)
  | .array items =>
      if names.length < items.length then none
      else some (items.map some ++ List.replicate (names.length - items.length) none)
  | _ => none

/-- A field that has to be there. -/
def required {α : Type} (read : Json → Option α) (field : Option Json) : Option α :=
  field.bind read

/-- A field that may be missing or `null`. -/
def optional {α : Type} (read : Json → Option α) : Option Json → Option (Option α)
  | none => some none
  | some .null => some none
  | some j => (read j).map some

/-- A field that may be missing. -/
def orDefault {α : Type} (default : α) (read : Json → Option α) : Option Json → Option α
  | none => some default
  | some j => read j

/-! ## Plain values -/

def bool? : Json → Option Bool
  | .bool b => some b
  | _ => none

def string? : Json → Option String
  | .string s => some s
  | _ => none

/-- A natural number below `limit`. -/
def natural? (limit : Nat) : Json → Option Nat
  | .number n => n.natural? limit
  | _ => none

/-- A natural number of 64 bits. -/
def word? : Json → Option Nat :=
  natural? Text.wordLimit

def binary64? : Json → Option Binary64
  | .number n => n.toBinary64?
  | _ => none

/-- A list, all of whose items are read. -/
def list? {α : Type} (read : Json → Option α) : Json → Option (List α)
  | .array items => items.mapM read
  | _ => none

/-- A name from a fixed choice, alone or as the only field of an object with the
    value `null`. -/
def choice? {α : Type} (read : String → Option α) : Json → Option α
  | .string s => read s
  | .object [(s, .null)] => read s
  | _ => none

/-! ## Writing fields -/

/-- A field that is left out when it has no value. -/
def whenPresent {α : Type} (name : String) (write : α → Json) :
    Option α → List (String × Json)
  | none => []
  | some a => [(name, write a)]

end FindingsBrowser.Json
