import FindingsBrowser.CommandLine.Run

/-! # Files of a command — the paths that carrying it out may look at

    A command runs on a file tree. These are the absolute paths that the tree
    has to hold for it, in two steps: where the configuration may lie, and, once
    that is known, the reports and the source file. -/

namespace FindingsBrowser.CommandLine

/-- The configuration file that arguments name. -/
def namedConfig? (args : List String) : Option String :=
  match Invocation.read args with
  | .ok invocation => invocation.config
  | .error _ => none

/-- Where a configuration may lie. -/
def configFiles (cwd : String) (args : List String) : List String :=
  (directoriesUpward cwd).map (fun dir => dir ++ "/" ++ configPath) ++
    (namedConfig? args).toList.map (Config.resolveDir cwd)

/-- The reports of a configuration, with their directory. -/
def reportFiles (config : Config) : List String :=
  config.reportDir :: AnalysisKind.all.map (reportPath config.reportDir)

/-- The source file that a command shows. -/
def sourceFile? (config : Config) : Command → Option String
  | .show _ path _ _ _ => some (Config.resolveDir config.sourceDir path)
  | _ => none

/-- The files of a project that a command may look at, once its configuration is
    in the tree. -/
def projectFiles (tree : FileTree) (cwd : String) (args : List String) : List String :=
  match Invocation.read args with
  | .error _ => []
  | .ok invocation =>
      match loadConfig tree cwd invocation.config with
      | .error _ => []
      | .ok config => reportFiles config ++ (sourceFile? config invocation.command).toList

/-- The source file that a request asks for. -/
def requestedFile? (server : Http.Server) (target : Http.Target) : Option String :=
  (Http.parameter? "path" (Http.queryPairs (target.query.getD []))).map
    (Config.resolveDir server.store.sourceDir)

end FindingsBrowser.CommandLine
