import FindingsBrowser.Terminal.Style
import FindingsBrowser.Viewer.Basic

/-! # Sources on the terminal — numbered lines with markers, and the detail panel -/

namespace FindingsBrowser.Terminal

/-- What the gutter shows for a decoration. -/
def marker : Option Decoration → String
  | none => " "
  | some .covered => styled .green "+"
  | some .killed => styled .green "+"
  | some .notComplex => styled .green "+"
  | some .uncovered => styled .red "-"
  | some .survived => styled .red "-"
  | some .complex => styled .red "-"
  | some .skipped => styled .dimmed "~"
  | some .mixedWithSurvived => styled .bold (styled .magenta "!")
  | some .mixedWithoutSurvived => styled .yellow "*"
  | some (.duplicated level) =>
      styled (if 3 ≤ level then .red else .yellow) (toString level)

/-- One line of the source: its number, its marker and its text. -/
def renderLine (width : Nat) (selected : Bool) (line : Nat)
    (decoration : Option Decoration) (text : String) : String :=
  let number := padLeft width (toString line)
  if selected then
    styled .bold (styled .cyan number) ++ " " ++ marker decoration ++ " " ++
      styled .bold text ++ "\n"
  else styled .dimmed number ++ " " ++ marker decoration ++ " " ++ text ++ "\n"

/-- The line above a source. -/
def renderHeader (document : Document) (viewport : LineSpan) : String :=
  styled .bold "##" ++ " " ++ styled .bold (styled .cyan document.path) ++ " " ++
    styled .dimmed
      ("(" ++ document.language ++ ", lines " ++ toString viewport.first ++ "-" ++
        toString viewport.last ++ " of " ++ toString document.lineCount ++ ")") ++
    "\n"

/-- The visible lines of a viewer. -/
def renderSource (v : Viewer) : String :=
  match v.document? with
  | none => styled .dimmed "No document loaded" ++ "\n"
  | some document =>
      match v.viewport with
      | none => ""
      | some viewport =>
          let lines := document.lines
          let width := (toString document.lineCount).length
          let rows := (lines.drop (viewport.first - 1)).zip viewport.lines
          renderHeader document viewport ++
            String.join (rows.map fun (text, line) =>
              renderLine width (v.selection == some line) line
                ((v.decorations.find? fun (n, _) => n == line).map Prod.snd) text)

/-- A group of the detail panel. -/
def renderGroup (group : DetailGroup) : String :=
  "  " ++ styled .bold group.kind.title ++ "\n" ++
    String.join (group.findings.map fun f =>
      "    " ++ styled .blue "-" ++ " " ++ f.summary ++ "\n")

/-- The detail panel. -/
def renderDetail : DetailView → String
  | .noSelection => styled .dimmed "Select a line to see its findings" ++ "\n"
  | .notAvailable => styled .yellow "N/A" ++ "\n"
  | .line line groups =>
      styled .bold "##" ++ " Line " ++ styled .cyan (toString line) ++ "\n" ++
        (if groups.isEmpty then "  " ++ styled .dimmed "No findings on this line" ++ "\n"
         else "") ++
        String.join (groups.map renderGroup)

end FindingsBrowser.Terminal
