import FindingsBrowser.Toml.Word

/-! # TOML documents — values, and how statements build up tables

    A document is a list of statements: headers, which open a table, and
    assignments to keys of the open table. Every key can be given a value once:
    a table that was written inline or opened by a header is closed to anything
    but what its kind allows. -/

namespace FindingsBrowser.Toml

/-- How a table came into being. -/
inductive TableKind where
  /-- Written in braces; nothing can be added. -/
  | inline
  /-- Opened by a header of its own. -/
  | opened
  /-- Named on the way to a table that a header opened. -/
  | passed
  /-- Named on the way to a value by a dotted key. -/
  | dotted
  deriving DecidableEq

/-- A value. -/
inductive Value where
  | string (s : String)
  | word (w : Word)
  | array (items : List Value)
  /-- A list of tables, each opened by a header in double brackets. -/
  | tables (items : List (List (String × Value)))
  | table (kind : TableKind) (entries : List (String × Value))

/-- The entries of a table, in order of appearance. -/
abbrev Entries := List (String × Value)

/-- The value of a key. -/
def find? (key : String) (entries : Entries) : Option Value :=
  (entries.find? fun (k, _) => k == key).map Prod.snd

/-- The entries with another value for a key; a new key goes to the end. -/
def put (key : String) (value : Value) : Entries → Entries
  | [] => [(key, value)]
  | (k, v) :: rest => if k = key then (key, value) :: rest else (k, v) :: put key value rest

/-- A value assigned to a dotted key. Tables on the way are made, or must have
    been made by dotted keys before. -/
def assign? : List String → Value → Entries → Option Entries
  | [], _, _ => none
  | [key], value, entries =>
      match find? key entries with
      | some _ => none
      | none => some (put key value entries)
  | key :: rest, value, entries =>
      match find? key entries with
      | none => (assign? rest value []).map fun sub => put key (.table .dotted sub) entries
      | some (.table .dotted sub) =>
          (assign? rest value sub).map fun sub => put key (.table .dotted sub) entries
      | some (.table .passed sub) =>
          (assign? rest value sub).map fun sub => put key (.table .passed sub) entries
      | some _ => none

/-- The last table of a list, changed. -/
def changeLast? (change : Entries → Option Entries) :
    List Entries → Option (List Entries)
  | [] => none
  | [last] => (change last).map fun last => [last]
  | first :: rest => (changeLast? change rest).map (first :: ·)

/-- The table at a path, changed; of a list of tables the last one is meant. -/
def change? (f : Entries → Option Entries) : List String → Entries → Option Entries
  | [], entries => f entries
  | key :: rest, entries =>
      match find? key entries with
      | none => (change? f rest []).map fun sub => put key (.table .passed sub) entries
      | some (.table .inline _) => none
      | some (.table kind sub) =>
          (change? f rest sub).map fun sub => put key (.table kind sub) entries
      | some (.tables items) =>
          (changeLast? (change? f rest) items).map fun items => put key (.tables items) entries
      | some _ => none

/-- The table `key` opened by a header. -/
def openTable? (key : String) (entries : Entries) : Option Entries :=
  match find? key entries with
  | none => some (put key (.table .opened []) entries)
  | some (.table .passed sub) => some (put key (.table .opened sub) entries)
  | some _ => none

/-- One more table in the list `key`. -/
def openItem? (key : String) (entries : Entries) : Option Entries :=
  match find? key entries with
  | none => some (put key (.tables [[]]) entries)
  | some (.tables items) => some (put key (.tables (items ++ [[]])) entries)
  | some _ => none

/-- A statement of a document. -/
inductive Statement where
  | header (path : List String)
  | itemHeader (path : List String)
  | assignment (key : List String) (value : Value)

/-- Carrying out statements, starting with the table at `path` open. -/
def run : List String → Entries → List Statement → Option Entries
  | _, entries, [] => some entries
  | path, entries, .assignment key value :: rest => do
      run path (← change? (assign? key value) path entries) rest
  | _, entries, .header path :: rest => do
      let key ← path.getLast?
      run path (← change? (openTable? key) path.dropLast entries) rest
  | _, entries, .itemHeader path :: rest => do
      let key ← path.getLast?
      run path (← change? (openItem? key) path.dropLast entries) rest

/-! ## As JSON -/

/-- A word as JSON; what no setting takes is not readable. -/
def Word.toJson : Word → Json
  | .boolean b => .bool b
  | .integer negative n => .number ⟨negative && n != 0, n, [], none⟩
  | .real | .moment | .garbled => .unreadable

mutual

/-- A value as JSON. -/
def Value.toJson : Value → Json
  | .string s => .string s
  | .word w => w.toJson
  | .array items => .array (itemsToJson items)
  | .tables items => .array (tablesToJson items)
  | .table _ entries => .object (entriesToJson entries)

/-- The items of a list as JSON. -/
def itemsToJson : List Value → List Json
  | [] => []
  | v :: vs => v.toJson :: itemsToJson vs

/-- A list of tables as JSON. -/
def tablesToJson : List (List (String × Value)) → List Json
  | [] => []
  | t :: ts => .object (entriesToJson t) :: tablesToJson ts

/-- The entries of a table as JSON fields. -/
def entriesToJson : List (String × Value) → List (String × Json)
  | [] => []
  | (k, v) :: rest => (k, v.toJson) :: entriesToJson rest

end

end FindingsBrowser.Toml
