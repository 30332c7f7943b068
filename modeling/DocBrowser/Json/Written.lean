import DocBrowser.Json.Basic
import DocBrowser.Number.Hexadecimal
import DocBrowser.Number.Literal

/-!
The two written forms of a JSON value. The compact form has no blanks. The pretty form has one item a
line, and two more spaces a level.
-/

namespace DocBrowser

def Number.written : Number → Text
  | .integer n => (if n < 0 then ("-" : Text) else "") ++ Text.ofNat n.natAbs
  | .float x => x.written

namespace Json

def escape? (c : Char) : Option Text :=
  if c = '"' then some "\\\""
  else if c = '\\' then some "\\\\"
  else if c.toNat = 0x08 then some "\\b"
  else if c = '\t' then some "\\t"
  else if c = '\n' then some "\\n"
  else if c.toNat = 0x0C then some "\\f"
  else if c = '\r' then some "\\r"
  else if c.toNat < 0x20 then
    some ("\\u00" ++ Hexadecimal.ofByte (UInt8.ofNat c.toNat))
  else none

def writtenChar (c : Char) : Text := (escape? c).getD [c]

def writtenString (text : Text) : Text := '"' :: text.flatMap writtenChar ++ ['"']

mutual

/-- The compact form: members in order of name, no blanks. -/
def compact : Json → Text
  | .null => "null"
  | .bool b => if b then "true" else "false"
  | .number n => n.written
  | .string text => writtenString text
  | .array items => "[" ++ Text.joined "," (compactItems items) ++ "]"
  | .object members => ('\x7b' :: Text.joined "," (compactMembers members)) ++ ['\x7d']

def compactItems : List Json → List Text
  | [] => []
  | item :: rest => compact item :: compactItems rest

def compactMembers : List (Text × Json) → List Text
  | [] => []
  | (name, value) :: rest => (writtenString name ++ ':' :: compact value) :: compactMembers rest

end

/-- The blanks between the tokens of a written value. -/
structure Layout where
  /-- What stands before an item, and before the bracket that closes a level. -/
  line : Nat → Text
  /-- What stands before the value of a member. -/
  gap : Text
  line_blank : ∀ level, ∀ c ∈ line level, c = ' ' ∨ c = '\n'
  gap_blank : ∀ c ∈ gap, c = ' ' ∨ c = '\n'

namespace Layout

def lines : Layout where
  line level := '\n' :: List.replicate (2 * level) ' '
  gap := [' ']
  line_blank := by
    intro level c there
    rcases List.mem_cons.mp there with rfl | space
    · exact .inr rfl
    · exact .inl (List.eq_of_mem_replicate space)
  gap_blank := by simp

/-- What stands after an opening bracket: parts a level deeper, and the bracket that closes. -/
def enclosed (layout : Layout) (level : Nat) (closing : Char) : List Text → Text
  | [] => [closing]
  | first :: rest =>
    Text.joined "," ((first :: rest).map (layout.line (level + 1) ++ ·)) ++
      layout.line level ++ [closing]

/-- A member whose value is written as given. -/
def member (layout : Layout) (name written : Text) : Text :=
  writtenString name ++ ':' :: layout.gap ++ written

end Layout

mutual

/-- A value as it is written with a layout, on lines of the given level. -/
def laidOut (layout : Layout) (level : Nat) : Json → Text
  | .null => "null"
  | .bool b => if b then "true" else "false"
  | .number n => n.written
  | .string text => writtenString text
  | .array items => '[' :: layout.enclosed level ']' (laidOutItems layout (level + 1) items)
  | .object members =>
    '\x7b' :: layout.enclosed level '\x7d' (laidOutMembers layout (level + 1) members)

def laidOutItems (layout : Layout) (level : Nat) : List Json → List Text
  | [] => []
  | item :: rest => laidOut layout level item :: laidOutItems layout level rest

def laidOutMembers (layout : Layout) (level : Nat) : List (Text × Json) → List Text
  | [] => []
  | (name, value) :: rest =>
    layout.member name (laidOut layout level value) :: laidOutMembers layout level rest

end

/-- The pretty form. -/
def pretty (value : Json) : Text := value.laidOut .lines 0

end Json

end DocBrowser
