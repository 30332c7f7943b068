import DocBrowser.Index.Basic
import DocBrowser.Text.LetterCase

/-!
Searching the index for types by a part of their key, without regard to letter case.
-/

namespace DocBrowser.Index

/-- Whether a key contains a query once both are in lower case. -/
def keyMatches (query key : Text) : Bool :=
  Text.occurs (LetterCase.lower query) (LetterCase.lower key)

/-- All types whose key matches, as package and key, in the order of packages and then of keys. -/
def search (index : Index) (query : Text) : List (Text × Text) :=
  index.entries.flatMap fun (package, entry) =>
    (entry.keys.filter (keyMatches query)).map fun key => (package, key)

end DocBrowser.Index
