import FindingsBrowser.Project.Config
import FindingsBrowser.Project.FileTree

/-! # Finding and loading the configuration of a project -/

namespace FindingsBrowser

/-- Where the configuration lies, seen from the project root. -/
def configPath : String := ".config/sightline/config.toml"

/-- Why a configuration cannot be loaded. -/
inductive ConfigError where
  | missing (path : String)
  | unreadable (path : String)
  | malformed (path : String)
  deriving DecidableEq

def ConfigError.message : ConfigError → String
  | missing path =>
      "Config file not found at " ++ path ++
        "\n\nCreate a config file pointing at your reports:\n\n" ++
        "report_dir = \"reports\"\nsource_dir = \".\""
  | unreadable path => "Failed to read config file: " ++ path
  | malformed path => "Failed to parse config file: " ++ path

namespace Config

/-- The configuration in a file. The path is seen from `cwd`, and errors name it
    as it was given. -/
def load (tree : FileTree) (cwd path : String) : Except ConfigError Config :=
  let absolute := resolveDir cwd path
  if !tree.pathExists absolute then .error (.missing path)
  else
    match tree.readText absolute with
    | .error _ => .error (.unreadable path)
    | .ok text =>
        match ofToml? text with
        | some config => .ok config
        | none => .error (.malformed path)

/-- The configuration in a file, or the default one. -/
def loadOrDefault (tree : FileTree) (cwd path : String) : Config :=
  match load tree cwd path with
  | .ok config => config
  | .error _ => {}

end Config

/-- The directories from `cwd` upward, nearest first; the root is written as an
    empty text. -/
def directoriesUpward (cwd : String) : List String :=
  let parts := (cwd.toList.splitOn '/').filter fun part => !part.isEmpty
  (List.range (parts.length + 1)).map fun n =>
    String.ofList ((parts.take (parts.length - n)).flatMap ('/' :: ·))

/-- The nearest directory, from `cwd` upward, that holds a configuration; `cwd`
    if none does. -/
def projectRoot (tree : FileTree) (cwd : String) : String :=
  match (directoriesUpward cwd).find? fun dir => tree.pathExists (dir ++ "/" ++ configPath) with
  | some dir => if dir.isEmpty then "/" else dir
  | none => cwd

end FindingsBrowser
