/-! # Command-line options — telling options, values and names apart

    Options are long (`--page 2`, `--page=2`) or short (`-c x`, `-cx`, `-c=x`);
    short ones can share a dash (`-vc x`). What follows `--` is never an option,
    and an option's value does not start with a dash unless it is attached. -/

namespace FindingsBrowser.CommandLine

/-- An option that a command takes. -/
structure OptionSpec where
  name : String
  short : Option Char := none
  takesValue : Bool := true
  /-- What the help text says about it. -/
  about : String

/-- Why the arguments are not a command to carry out. -/
inductive Exit where
  /-- The help text was asked for, of one command or of all. -/
  | help (command : Option String)
  /-- The version was asked for. -/
  | version
  /-- The arguments make no sense. -/
  | misuse
  deriving DecidableEq

/-- What the arguments of a command hold, up to a request for help or
    version. -/
structure Scan where
  /-- Options in order, flags with an empty value. -/
  options : List (String × String) := []
  names : List String := []
  /-- What a command that is only named here is to read. -/
  rest : List String := []
  ended : Option Exit := none

namespace Scan

def withOption (name value : String) (scan : Scan) : Scan :=
  { scan with options := (name, value) :: scan.options }

def withName (name : String) (scan : Scan) : Scan :=
  { scan with names := name :: scan.names }

def stop (exit : Exit) : Scan := { ended := some exit }

/-- The values given to an option. -/
def values (scan : Scan) (name : String) : List String :=
  (scan.options.filter fun (n, _) => n == name).map Prod.snd

end Scan

/-- Whether an argument is taken for an option: a dash and something behind
    it. -/
def looksLikeOption (arg : List Char) : Bool :=
  match arg with
  | '-' :: _ :: _ => true
  | _ => false

/-- The end of reading that an option asks for, if it does. -/
def exitOf? (name : String) : Option Exit :=
  if name = "help" then some (.help none)
  else if name = "version" then some .version
  else none

/-- The options a group of short ones stands for, and the one that still needs a
    value. One that ends reading ends the group too. -/
def readShort (specs : List OptionSpec) :
    List Char → Option (List (String × String) × Option String)
  | [] => some ([], none)
  | c :: cs =>
      match specs.find? fun spec => spec.short == some c with
      | none => none
      | some spec =>
          if spec.takesValue then
            match cs with
            | [] => some ([], some spec.name)
            | '=' :: value => some ([(spec.name, String.ofList value)], none)
            | value => some ([(spec.name, String.ofList value)], none)
          else if (exitOf? spec.name).isSome then some ([(spec.name, "")], none)
          else
            (readShort specs cs).map fun (options, pending) =>
              ((spec.name, "") :: options, pending)

/-- The option a long one stands for, from behind its dashes. -/
def readLong (specs : List OptionSpec) (arg : List Char) :
    Option (List (String × String) × Option String) :=
  let name := arg.takeWhile (· != '=')
  let attached := arg.dropWhile (· != '=')
  match specs.find? fun spec => spec.name == String.ofList name with
  | none => none
  | some spec =>
      match spec.takesValue, attached with
      | true, '=' :: value => some ([(spec.name, String.ofList value)], none)
      | true, _ => some ([], some spec.name)
      | false, [] => some ([(spec.name, "")], none)
      | false, _ => none

/-- The request that ends reading, among options just read. -/
def request? (options : List (String × String)) : Option Exit :=
  options.findSome? fun (name, _) => exitOf? name

/-- The options up to one that ends reading. -/
def beforeRequest (options : List (String × String)) : List (String × String) :=
  options.takeWhile fun (name, _) => (exitOf? name).isNone

/-- Reading arguments. `command` tells whether the first name is that of a
    command, which reads the rest itself; `pending` is an option that waits for
    its value, and `literal` is set behind `--`. -/
def scan (specs : List OptionSpec) (command : Bool) :
    (pending : Option String) → (literal : Bool) → List String → Scan
  | none, _, [] => {}
  | some _, _, [] => .stop .misuse
  | pending, literal, arg :: rest =>
      let named : Scan :=
        if command then
          if literal then .stop .misuse else { rest := arg :: rest }
        else .withName arg (scan specs command none literal rest)
      if literal then named
      else if looksLikeOption arg.toList then
        if pending.isSome then .stop .misuse
        else if arg = "--" then scan specs command none true rest
        else
          let read :=
            match arg.toList with
            | '-' :: '-' :: long => readLong specs long
            | _ :: short => readShort specs short
            | [] => none
          match read with
          | none => .stop .misuse
          | some (options, pending) =>
              match request? options with
              | some exit =>
                  (beforeRequest options).foldr (fun o s => s.withOption o.1 o.2) (.stop exit)
              | none =>
                  options.foldr (fun o s => s.withOption o.1 o.2)
                    (scan specs command pending false rest)
      else
        match pending with
        | some name => .withOption name arg (scan specs command none false rest)
        | none => named

end FindingsBrowser.CommandLine
