import DocBrowser.Regex.Basic

/-!
How regular expressions are written. A character stands for itself unless it is an operator, and
after a backslash an operator stands for itself too. Characters, classes in brackets with `+` and
`*` after them, groups and the two anchors are read, and any other operator is refused.
-/

namespace DocBrowser.Regex

/-- The characters that may stand for something else, now or inside brackets. -/
def metaCharacters : List Char :=
  ['\\', '.', '+', '*', '?', '(', ')', '|', '[', ']', '\x7b', '\x7d', '^', '$', '#', '&', '-', '~']

/-- A character written so that it stands for itself. -/
def escapedChar (c : Char) : Text := if c ∈ metaCharacters then ['\\', c] else [c]

def escape (text : Text) : Text := text.flatMap escapedChar

inductive Reader.Place
  | outside
  /-- After a backslash. -/
  | escaping
  /-- After an opening bracket. -/
  | opened
  | inside (set : CharClass)
  /-- Inside a class, after a character that may begin a range. -/
  | item (set : CharClass) (first : Char)
  /-- Inside a class, after the dash of a range. -/
  | range (set : CharClass) (first : Char)

/-- What was read of an expression: the parts of the innermost group, the last one first, and the
groups around it with their numbers and what was read before them. -/
structure Reader where
  place : Reader.Place := .outside
  parts : List Regex := []
  around : List (Nat × List Regex) := []
  /-- How many groups were opened. -/
  groups : Nat := 0

namespace Reader

def push (part : Regex) (reader : Reader) : Reader :=
  { reader with place := .outside, parts := part :: reader.parts }

def openGroup (reader : Reader) : Reader where
  place := .outside
  parts := []
  around := (reader.groups + 1, reader.parts) :: reader.around
  groups := reader.groups + 1

def closeGroup? (reader : Reader) : Option Reader :=
  match reader.around with
  | [] => none
  | (number, before) :: around =>
    some ⟨.outside, .group number (row reader.parts.reverse) :: before, around, reader.groups⟩

/-- Repeats the last part, which has to be a single character. -/
def repeat? (once : Bool) (reader : Reader) : Option Reader :=
  match reader.parts with
  | .one set :: before =>
    some { reader with parts := .many set :: if once then .one set :: before else before }
  | _ => none

def outside? (reader : Reader) : Char → Option Reader
  | '\\' => some { reader with place := .escaping }
  | '^' => some (reader.push .start)
  | '$' => some (reader.push .finish)
  | '(' => some reader.openGroup
  | ')' => reader.closeGroup?
  | '[' => some { reader with place := .opened }
  | '*' => reader.repeat? false
  | '+' => reader.repeat? true
  | c => if c ∈ ['.', '?', '|', '\x7b'] then none else some (reader.push (.char c))

/-- The characters that may not begin or end a range here. -/
def reserved : List Char := ['[', ']', '\\', '&', '~', '-']

def inside? (reader : Reader) (set : CharClass) (c : Char) : Option Reader :=
  if c = ']' ∧ set.ranges ≠ [] then some (reader.push (.one set))
  else if c ∈ reserved then none
  else some { reader with place := .item set c }

def extended (set : CharClass) (first last : Char) : CharClass :=
  { set with ranges := set.ranges ++ [(first, last)] }

/-- Reads one character. -/
def step (reader : Reader) (c : Char) : Option Reader :=
  match reader.place with
  | .outside => reader.outside? c
  | .escaping => if c ∈ metaCharacters then some (reader.push (.char c)) else none
  | .opened =>
    if c = '^' then some { reader with place := .inside ⟨true, []⟩ }
    else reader.inside? ⟨false, []⟩ c
  | .inside set => reader.inside? set c
  | .item set first =>
    if c = '-' then some { reader with place := .range set first }
    else reader.inside? (extended set first first) c
  | .range set first =>
    if c ∈ reserved ∨ c < first then none
    else some { reader with place := .inside (extended set first c) }

/-- The expression, if it ends where no class and no group is open. -/
def regex? (reader : Reader) : Option Regex :=
  match reader.place, reader.around with
  | .outside, [] => some (row reader.parts.reverse)
  | _, _ => none

end Reader

/-- The expression that a text stands for. -/
def read (text : Text) : Option Regex := (text.foldlM Reader.step {}).bind Reader.regex?

end DocBrowser.Regex
