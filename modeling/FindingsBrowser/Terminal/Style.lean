/-! # Terminal styles — text between escape sequences

    A colour is undone by the default colour, an intensity by a full reset. -/

namespace FindingsBrowser.Terminal

/-- How a text is shown. -/
inductive Style where
  | bold
  | dimmed
  | red
  | green
  | yellow
  | blue
  | magenta
  | cyan

/-- The code that turns a style on. -/
def Style.code : Style → String
  | bold => "1"
  | dimmed => "2"
  | red => "31"
  | green => "32"
  | yellow => "33"
  | blue => "34"
  | magenta => "35"
  | cyan => "36"

/-- The code that turns a style off. -/
def Style.resetCode : Style → String
  | bold => "0"
  | dimmed => "0"
  | _ => "39"

/-- The escape sequence of a code. -/
def escape (code : String) : String :=
  "\x1b[" ++ code ++ "m"

/-- A text in a style. -/
def styled (style : Style) (s : String) : String :=
  escape style.code ++ s ++ escape style.resetCode

/-- A text filled up with blanks behind it to `width` characters. -/
def padRight (width : Nat) (s : String) : String :=
  s ++ String.ofList (List.replicate (width - s.length) ' ')

/-- A text filled up with blanks before it to `width` characters. -/
def padLeft (width : Nat) (s : String) : String :=
  String.ofList (List.replicate (width - s.length) ' ') ++ s

end FindingsBrowser.Terminal
