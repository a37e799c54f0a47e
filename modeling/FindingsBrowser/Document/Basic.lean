import FindingsBrowser.Path.Basic
import FindingsBrowser.Text.Utf8

/-! # Documents — a source file and its lines

    Lines end at line feeds; a line feed at the very end starts no further line,
    and an empty text has no lines. One scan of the text finds where its lines
    start, in bytes. A line is cut out from its start to the next one, and given
    without its line feed and without one carriage return before it. -/

namespace FindingsBrowser

open Text

/-- A source file. -/
structure Document where
  path : String
  text : String

namespace Document

/-! ## Where lines start -/

def lineFeed : UInt8 := 0x0A

/-- The line starts of a text of `size` bytes, of which those before `place` are
    known. A line feed starts a line behind it, unless it ends the text. -/
def scanStarts (size : Nat) : Nat → Array Nat → List UInt8 → Array Nat
  | _, starts, [] => starts
  | place, starts, byte :: bytes =>
      let starts :=
        if byte = lineFeed ∧ place + 1 < size then starts.push (place + 1) else starts
      scanStarts size (place + 1) starts bytes

/-- The places where the lines of a document start, counted in bytes. -/
def lineStarts (d : Document) : Array Nat :=
  let bytes := Utf8.encode d.text.toList
  scanStarts bytes.length 0 (if bytes.isEmpty then #[] else #[0]) bytes

def lineCount (d : Document) : Nat :=
  d.lineStarts.size

/-- Whether a document has a line of this number. -/
def containsLine (d : Document) (line : Nat) : Bool :=
  1 ≤ line && line ≤ d.lineCount

/-! ## Lines -/

/-- The place behind a line: the next start, or the end of the text. -/
def lineStop (d : Document) (starts : Array Nat) (line : Nat) : Nat :=
  starts[line]?.getD d.text.utf8ByteSize

/-- A line with its end, by its number, counted from 1. -/
def rawLine? (d : Document) (starts : Array Nat) (line : Nat) : Option String :=
  if line = 0 then none
  else
    match starts[line - 1]? with
    | none => none
    | some start => Utf8.between? d.text start (d.lineStop starts line)

/-- A text without one `c` at its end. -/
def stripEnd (c : Char) (s : List Char) : List Char :=
  if s.getLast? = some c then s.dropLast else s

/-- A line as it is shown: without its line feed, and without one carriage return
    before it. -/
def stripLine (raw : List Char) : List Char :=
  stripEnd '\r' (stripEnd '\n' raw)

/-- A line by its number, once the line starts are known. -/
def cutLine? (d : Document) (starts : Array Nat) (line : Nat) : Option String :=
  (d.rawLine? starts line).map fun raw => String.ofList (stripLine raw.toList)

/-- A line by its number, counted from 1. -/
def line? (d : Document) (line : Nat) : Option String :=
  d.cutLine? d.lineStarts line

/-- The lines of a document. -/
def lines (d : Document) : List String :=
  let starts := d.lineStarts
  (List.range' 1 starts.size).filterMap (d.cutLine? starts)

/-! ## Language -/

/-- The languages of file extensions. -/
def languages : List (String × String) :=
  [("rs", "rust"), ("c", "c"), ("h", "c"), ("cc", "cpp"), ("cpp", "cpp"), ("cxx", "cpp"),
    ("hpp", "cpp"), ("hh", "cpp"), ("java", "java"), ("py", "python"), ("js", "javascript"),
    ("ts", "typescript"), ("go", "go"), ("sh", "bash"), ("bash", "bash"), ("bb", "bitbake"),
    ("bbappend", "bitbake"), ("bbclass", "bitbake"), ("inc", "bitbake"), ("conf", "bitbake"),
    ("json", "json"), ("yaml", "yaml"), ("yml", "yaml"), ("toml", "toml"), ("xml", "xml"),
    ("md", "markdown")]

/-- The language a document is displayed as, by its extension. -/
def language (d : Document) : String :=
  match Path.extension? d.path.toList with
  | none => "plaintext"
  | some ext =>
      match languages.find? fun (e, _) => e == String.ofList ext with
      | some (_, language) => language
      | none => "plaintext"

end Document

end FindingsBrowser
