import FindingsBrowser.CommandLine.Files

/-! # The command — from the process to the library and back

    Files are copied from the disk into a tree, the command runs on the tree,
    and what it comes to is printed. `serve` reads requests such as
    `GET /api/health` from standard input, one a line, and answers each with its
    status, its content type and its body. -/

namespace FindingsBrowser.Main

/-- The error number of an attempt to read a directory as a file. -/
def directoryError : UInt32 := 21

/-- The tree with what the disk holds at a path; nothing if it cannot be
    read. -/
def copy (tree : FileTree) (path : String) : IO FileTree := do
  match ← (IO.FS.readBinFile path).toBaseIO with
  | .ok bytes => pure (tree.addFile path bytes.toList)
  | .error (.inappropriateType _ code _) =>
      pure (if code = directoryError then tree.addDirectory path else tree)
  | .error _ => pure tree

/-- The tree with what the disk holds at some paths. -/
def copyAll (tree : FileTree) (paths : List String) : IO FileTree :=
  paths.foldlM copy tree

/-- A request's method and target. -/
def readRequest (line : String) : String × List Char :=
  let (method, target) := (Text.cutFirst ' ' line.trimAscii.toString.toList).getD ([], [])
  (String.ofList method, target)

/-- Print an answer. -/
def printResponse (r : Http.Response) : IO Unit := do
  IO.println (toString r.status ++ " " ++ r.contentType.getD "")
  IO.println r.body
  (← IO.getStdout).flush

/-- Answer one request. -/
def answer (server : Http.Server) (line : String) : IO Unit := do
  let (method, uri) := readRequest line
  match Http.Target.read? uri with
  | none => printResponse (.bare 400)
  | some target =>
      let tree ← copyAll server.tree (CommandLine.requestedFile? server target).toList
      printResponse ({ server with tree }.respond method target)

/-- Answer requests until the input ends. -/
partial def serve (server : Http.Server) : IO Unit := do
  let line ← (← IO.getStdin).getLine
  if line.isEmpty then pure ()
  else
    answer server line
    serve server

/-- Print what a command comes to; the result is the exit code. -/
def finish : CommandLine.Outcome → IO UInt32
  | .done code stdout error => do
      IO.print stdout
      match error with
      | some message => IO.eprintln ("Error: " ++ message)
      | none => pure ()
      pure (UInt32.ofNat code)
  | .serve server _ _ => do
      serve server
      pure 0

end FindingsBrowser.Main

open FindingsBrowser in
/-- Carry out the command that the arguments ask for. -/
def main (args : List String) : IO UInt32 := do
  let cwd := (← IO.currentDir).toString
  let tree ← Main.copyAll (FileTree.empty.addDirectory cwd) (CommandLine.configFiles cwd args)
  let tree ← Main.copyAll tree (CommandLine.projectFiles tree cwd args)
  Main.finish (CommandLine.run tree cwd args)
