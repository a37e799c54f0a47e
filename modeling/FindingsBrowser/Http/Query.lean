import FindingsBrowser.Text.Cut
import FindingsBrowser.Text.Percent

/-! # Query parameters — form-decoded pairs

    Names and values are form-decoded. A parameter that is asked for may be
    given at most once; others do not matter. -/

namespace FindingsBrowser.Http

open Text

/-- The pairs of a query, in order. -/
def queryPairs (query : List Char) : List (String × String) :=
  ((query.splitOn '&').filter fun pair => !pair.isEmpty).map fun pair =>
    let (name, value) := (cutFirst '=' pair).getD (pair, [])
    (String.ofList (Percent.decodeForm name), String.ofList (Percent.decodeForm value))

/-- The first of the `names` that is given a second time. -/
def repeated? (names : List String) (seen : List String) :
    List (String × String) → Option String
  | [] => none
  | (name, _) :: rest =>
      if names.contains name then
        if seen.contains name then some name else repeated? names (name :: seen) rest
      else repeated? names seen rest

/-- The value of a parameter. -/
def parameter? (name : String) (pairs : List (String × String)) : Option String :=
  (pairs.find? fun (n, _) => n == name).map Prod.snd

end FindingsBrowser.Http
