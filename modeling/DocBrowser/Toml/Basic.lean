import DocBrowser.Dictionary

/-!
TOML values and the rules by which the lines of a document build up its tables. A table remembers
how it came to be, because that says what may still be added to it: a table is opened by a header
once, and neither dotted keys nor headers may reach into a table that the other kind has closed.
-/

namespace DocBrowser.Toml

inductive Origin
  /-- As a step in the path of a header. -/
  | implied
  /-- As a step in a dotted key. -/
  | dotted
  /-- Under a header of its own; the root counts as one. -/
  | headed
  /-- Between braces. -/
  | inline
  deriving DecidableEq, Inhabited

/-- A value. Numbers with a fraction and moments in time are checked when they are read and not
kept. -/
inductive Value
  | string (text : Text)
  | integer (n : Int)
  | float
  | boolean (b : Bool)
  | moment
  | array (items : List Value)
  | table (origin : Origin) (members : List (Text × Value))
  /-- Tables under repeated double headers: those that are complete, and the members of the last. -/
  | tables (complete : List Value) (last : List (Text × Value))
  deriving Inhabited

/-- The members of a table, in the order of their names. -/
abbrev Members := List (Text × Value)

/-- A key: the names before the dots and the last name. -/
structure Key where
  path : List Text := []
  name : Text

namespace Members

/-- Changes the members of the table at the end of a path. Tables on the way are made if they are
missing; the last table of an array of tables stands for the array. A dotted key does not go
through a table with a header of its own, and nothing goes into an inline table. -/
def within (byKey : Bool) (change : Origin → Members → Option Members) :
    List Text → Origin → Members → Option Members
  | [], origin, members => change origin members
  | name :: path, _, members =>
    match Sorted.find? name members with
    | none =>
      let origin := if byKey then .dotted else .implied
      (within byKey change path origin []).map fun inner =>
        Sorted.insert name (.table origin inner) members
    | some (.table origin inner) =>
      if origin = .inline ∨ (byKey ∧ origin = .headed) then none
      else (within byKey change path origin inner).map fun inner =>
        Sorted.insert name (.table origin inner) members
    | some (.tables complete last) =>
      (within byKey change path .headed last).map fun last =>
        Sorted.insert name (.tables complete last) members
    | some _ => none

/-- Gives a key of a table its value. Dotted keys only add to tables that dotted keys have made. -/
def assign (key : Key) (value : Value) (origin : Origin) (members : Members) : Option Members :=
  within true (fun reached members =>
      if (reached = .dotted) ↔ key.path.isEmpty then none
      else if (Sorted.find? key.name members).isSome then none
      else some (Sorted.insert key.name value members))
    key.path origin members

def openTable (header : Key) (root : Members) : Option Members :=
  within false (fun _ members =>
      match Sorted.find? header.name members with
      | none => some (Sorted.insert header.name (.table .headed []) members)
      | some (.table .implied inner) =>
        some (Sorted.insert header.name (.table .headed inner) members)
      | some _ => none)
    header.path .headed root

def openNext (header : Key) (root : Members) : Option Members :=
  within false (fun _ members =>
      match Sorted.find? header.name members with
      | none => some (Sorted.insert header.name (.tables [] []) members)
      | some (.tables complete last) =>
        let complete := complete ++ [.table .headed last]
        some (Sorted.insert header.name (.tables complete []) members)
      | some _ => none)
    header.path .headed root

end Members

/-- A line of a document, blank lines and comments apart. -/
inductive Statement
  | header (key : Key)
  | doubleHeader (key : Key)
  | assignment (key : Key) (value : Value)

/-- Obeys a statement under the header at `path`. The result is the header that is in force after
it and the root. -/
def Statement.obey (path : List Text) (root : Members) : Statement → Option (List Text × Members)
  | .header key => (Members.openTable key root).map (key.path ++ [key.name], ·)
  | .doubleHeader key => (Members.openNext key root).map (key.path ++ [key.name], ·)
  | .assignment key value =>
    (Members.within false (Members.assign key value) path .headed root).map (path, ·)

def Members.obeyAll (path : List Text) (root : Members) : List Statement → Option Members
  | [] => some root
  | statement :: rest => do
    let (path, root) ← statement.obey path root
    obeyAll path root rest

def Members.ofStatements (statements : List Statement) : Option Members := obeyAll [] [] statements

end DocBrowser.Toml
