import FindingsBrowser.CommandLine.Arguments
import FindingsBrowser.Http.Router
import FindingsBrowser.Terminal.Style

/-! # Help — what the command says about itself

    A help text names the purpose, the usage, and then the arguments, commands
    and options, each in a table of two columns. -/

namespace FindingsBrowser.CommandLine

/-- The name and version of the command. -/
def versionText : String := "sightline " ++ Http.version ++ "\n"

/-! ## Tables of two columns -/

/-- An option as it is typed. -/
def OptionSpec.usage (spec : OptionSpec) : String :=
  (match spec.short with
    | some c => "-" ++ String.singleton c ++ ", "
    | none => "    ") ++
    "--" ++ spec.name ++ (if spec.takesValue then " <" ++ spec.name.toUpper ++ ">" else "")

/-- A headed table; nothing at all if it has no rows. -/
def table (heading : String) (rows : List (String × String)) : String :=
  if rows.isEmpty then ""
  else
    let width := rows.foldl (fun width row => max width row.1.length) 0
    "\n" ++ heading ++ ":\n" ++
      String.join (rows.map fun (term, about) =>
        "  " ++ Terminal.padRight width term ++ "  " ++ about ++ "\n")

/-- The table of some options. -/
def optionTable (specs : List OptionSpec) : String :=
  table "Options" (specs.map fun spec => (spec.usage, spec.about))

/-- A purpose and a usage. -/
def opening (about usage : String) : String :=
  about ++ "\n\nUsage: sightline " ++ usage ++ "\n"

/-! ## The texts -/

/-- The purpose of each command. -/
def commandPurposes : List (String × String) :=
  [("serve", "Serve the dashboard API"), ("list", "Print one page of an analysis table"),
    ("show", "Print a source file with its findings"),
    ("help", "Print this message or the help of the given subcommand(s)")]

/-- The purpose of one command. -/
def purpose (command : String) : String :=
  ((commandPurposes.find? fun (name, _) => name == command).map Prod.snd).getD ""

/-- The help text on one command, or on all of them. -/
def helpText : Option String → String
  | some "serve" =>
      opening (purpose "serve") "serve [OPTIONS]" ++ optionTable serveOptions
  | some "list" =>
      opening (purpose "list") "list [OPTIONS] <KIND>" ++
        table "Arguments" [("<KIND>", "Analysis kind, e.g. statement-coverage")] ++
        optionTable listOptions
  | some "show" =>
      opening (purpose "show") "show [OPTIONS] <KIND> <PATH>" ++
        table "Arguments"
          [("<KIND>", "Analysis kind, e.g. mutation-test"),
            ("<PATH>", "File path, relative to the source directory")] ++
        optionTable showOptions
  | some "help" =>
      opening (purpose "help") "help [COMMAND]..." ++
        table "Arguments" [("[COMMAND]...", "Print help for the subcommand(s)")]
  | _ =>
      opening
          ("Build-quality dashboard: browse coverage, complexity, duplication, mutation and " ++
            "violation findings over source files")
          "[OPTIONS] <COMMAND>" ++
        table "Commands" commandPurposes ++ optionTable topOptions

end FindingsBrowser.CommandLine
