import DocBrowser.Text.Blank

/-!
What a line of a session asks for.
-/

namespace DocBrowser

inductive Command
  /-- A blank line asks for nothing. -/
  | nothing
  /-- A line that begins with a slash is a path to go to. -/
  | visit (path : Text)
  | back
  | packages
  /-- The query is empty if the line does not give one. -/
  | search (query : Text)
  | status
  | help
  | quit
  | unknown (word : Text)
  deriving DecidableEq

namespace Command

def ofWord (word argument : Text) : Command :=
  if word = ("quit" : Text) ∨ word = ("exit" : Text) ∨ word = ("q" : Text) then .quit
  else if word = ("help" : Text) ∨ word = ("?" : Text) then .help
  else if word = ("back" : Text) then .back
  else if word = ("packages" : Text) then .packages
  else if word = ("search" : Text) then .search argument
  else if word = ("status" : Text) then .status
  else .unknown word

def ofLine (line : Text) : Command :=
  let line := line.trimmed
  if line.isEmpty then .nothing
  else if line.head? = some '/' then .visit line
  else
    let (word, rest) := line.cutAtBlank
    ofWord word ((rest.getD []).trimmed)

end Command

end DocBrowser
