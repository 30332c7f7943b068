import DocBrowser.Text

/-!
The paths visited in a session. Going to the page one is on already is no visit, so neighbours
differ.
-/

namespace DocBrowser

/-- The paths visited, the latest first. -/
structure History where
  paths : List Text := []
  deriving DecidableEq

namespace History

def visit (history : History) (path : Text) : History :=
  if history.paths.head? = some path then history else ⟨path :: history.paths⟩

def previous? (history : History) : Option Text := history.paths[1]?

/-- Notes that one went back and was shown `path`: the current path is forgotten. -/
def goBack (history : History) (path : Text) : History :=
  (⟨history.paths.tail⟩ : History).visit path

end History

end DocBrowser
