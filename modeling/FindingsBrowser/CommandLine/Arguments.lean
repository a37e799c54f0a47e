import FindingsBrowser.AnalysisKind
import FindingsBrowser.CommandLine.Options
import FindingsBrowser.Project.Loading

/-! # Commands — what can be asked for on the command line

    Two options, `--config` and `--verbose`, go with every command and may stand
    before or behind its name. Each option is given at most once, but for
    `--sort`. -/

namespace FindingsBrowser.CommandLine

/-- A command with its arguments. -/
inductive Command where
  | serve (port : Option Nat) (openBrowser : Bool)
  | list (kind : AnalysisKind) (state : Option String) (page : Option Nat)
      (sorters : List Sorter) (activate : Option String)
  | show (kind : AnalysisKind) (path : String) (first last line : Option Nat)

/-- A command and the configuration file to use. -/
structure Invocation where
  command : Command
  config : Option String

/-! ## Options -/

def configOption : OptionSpec :=
  { name := "config", short := some 'c',
    about := "Path to config file (default: " ++ configPath ++ ")" }

def verboseOption : OptionSpec :=
  { name := "verbose", short := some 'v', takesValue := false, about := "Show debug logging" }

def helpOption : OptionSpec :=
  { name := "help", short := some 'h', takesValue := false, about := "Print help" }

/-- The options before the name of a command. -/
def topOptions : List OptionSpec :=
  [configOption, verboseOption, helpOption,
    { name := "version", short := some 'V', takesValue := false, about := "Print version" }]

def serveOptions : List OptionSpec :=
  [configOption,
    { name := "port", about := "Port to listen on (default: first free port from 3000)" },
    { name := "open", takesValue := false, about := "Open the dashboard in a browser" },
    verboseOption, helpOption]

def listOptions : List OptionSpec :=
  [configOption,
    { name := "state", about := "Navigation state to restore, as a query string" },
    { name := "page", about := "Page to show" }, verboseOption,
    { name := "sort", about := "Sort order, as column or column:dir (repeatable)" },
    { name := "activate", about := "Activate a row and print the URL it navigates to" },
    helpOption]

def showOptions : List OptionSpec :=
  [configOption, { name := "from", about := "First line to show" },
    { name := "to", about := "Last line to show" }, verboseOption,
    { name := "line", about := "Select a line and show its findings" }, helpOption]

/-! ## Values -/

/-- The value of an option that may be given once. -/
def once {α : Type} (scan : Scan) (name : String) (read : String → Option α) :
    Except Exit (Option α) :=
  match scan.values name with
  | [] => .ok none
  | [value] =>
      match read value with
      | some a => .ok (some a)
      | none => .error .misuse
  | _ => .error .misuse

/-- Whether a flag is given; it may be given once. -/
def flag (scan : Scan) (name : String) : Except Exit Bool :=
  (once scan name some).map Option.isSome

def readWord (s : String) : Option Nat :=
  Text.readNatural Text.wordLimit s.toList

/-- A port number. A minus sign is allowed before zeros. -/
def readPort (s : String) : Option Nat :=
  match s.toList with
  | '-' :: '0' :: digits => (Text.readDigits 0 digits).filter (· = 0)
  | s => Text.readNatural portLimit s

/-- A path that is not empty. -/
def readPath (s : String) : Option String :=
  if s.isEmpty then none else some s

/-- The sorters in one value, separated by commas. -/
def readSorters (s : String) : Option (List Sorter) :=
  (s.toList.splitOn ',').mapM fun piece =>
    match Sorter.read piece with
    | .ok sorter => some sorter
    | .error _ => none

/-- The sorters in all values of an option. -/
def readSort (scan : Scan) : Except Exit (List Sorter) :=
  match (scan.values "sort").mapM readSorters with
  | some groups => .ok groups.flatten
  | none => .error .misuse

/-- The options of every command. -/
def readCommon (scan : Scan) : Except Exit (Option String) := do
  let config ← once scan "config" readPath
  let _ ← flag scan "verbose"
  pure config

/-- A name read as something, if it is there. -/
def readName {α : Type} (read : String → Option α) : Option String → Except Exit (Option α)
  | none => .ok none
  | some s =>
      match read s with
      | some a => .ok (some a)
      | none => .error .misuse

/-- The end of reading that was asked for, if any; then a name that has to be
    there. -/
def needed {α : Type} (scan : Scan) (value : Option α) : Except Exit α :=
  match scan.ended, value with
  | some exit, _ => .error exit
  | none, some a => .ok a
  | none, none => .error .misuse

/-! ## Commands -/

/-- At most `n` names. -/
def atMost (n : Nat) (scan : Scan) : Except Exit Unit :=
  if n < scan.names.length then .error .misuse else .ok ()

def readServe (args : List String) : Except Exit (Command × Option String) := do
  let s := scan serveOptions false none false args
  atMost 0 s
  let port ← once s "port" readPort
  let openBrowser ← flag s "open"
  let config ← readCommon s
  needed s (some (.serve port openBrowser, config))

def readList (args : List String) : Except Exit (Command × Option String) := do
  let s := scan listOptions false none false args
  atMost 1 s
  let kind ← readName AnalysisKind.ofSlug? s.names.head?
  let state ← once s "state" some
  let page ← once s "page" readWord
  let sorters ← readSort s
  let activate ← once s "activate" some
  let config ← readCommon s
  let kind ← needed s kind
  pure (.list kind state page sorters activate, config)

def readShow (args : List String) : Except Exit (Command × Option String) := do
  let s := scan showOptions false none false args
  atMost 2 s
  let kind ← readName AnalysisKind.ofSlug? s.names.head?
  let first ← once s "from" readWord
  let last ← once s "to" readWord
  let line ← once s "line" readWord
  let config ← readCommon s
  let kind ← needed s kind
  let path ← needed s s.names.tail.head?
  pure (.show kind path first last line, config)

/-- The commands that help is available on. -/
def commandNames : List String := ["serve", "list", "show", "help"]

/-- The answer to a request for help on a command. -/
def readHelp : List String → Exit
  | [] => .help none
  | [name] => if commandNames.contains name then .help (some name) else .misuse
  | _ => .misuse

/-- What a command read, with its name in a request for help. -/
def named {α : Type} (name : String) : Except Exit α → Except Exit α
  | .error (.help _) => .error (.help (some name))
  | result => result

/-- The command that arguments ask for. A configuration named behind the command
    takes precedence over one named before it. -/
def Invocation.read (args : List String) : Except Exit Invocation := do
  let s := scan topOptions true none false args
  let outer ← readCommon s
  let rest ← needed s (some s.rest)
  let (command, inner) ←
    match rest with
    | "serve" :: args => named "serve" (readServe args)
    | "list" :: args => named "list" (readList args)
    | "show" :: args => named "show" (readShow args)
    | "help" :: args => .error (readHelp args)
    | _ => .error .misuse
  pure ⟨command, inner.or outer⟩

end FindingsBrowser.CommandLine
