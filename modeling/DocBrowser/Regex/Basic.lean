import DocBrowser.Text

/-!
Regular expressions, as far as routes are written with them: classes of characters and their
repetition, groups, and the two ends of a text. Matching goes back and forth: of all matches the
leftmost counts, and of those that begin there the one whose repetitions, first come first served,
take as much as they can.
-/

namespace DocBrowser

/-- The characters in some ranges or, if `negated`, all others. -/
structure CharClass where
  negated : Bool := false
  ranges : List (Char × Char)
  deriving DecidableEq

namespace CharClass

def single (c : Char) : CharClass where
  ranges := [(c, c)]

def holds (set : CharClass) (c : Char) : Bool :=
  set.ranges.any (fun (first, last) => first ≤ c && c ≤ last) != set.negated

end CharClass

inductive Regex
  | empty
  /-- The beginning of the text. -/
  | start
  /-- The end of the text. -/
  | finish
  | one (set : CharClass)
  /-- Any number of characters. -/
  | many (set : CharClass)
  | andThen (first rest : Regex)
  /-- An expression whose match is kept under a number. -/
  | group (number : Nat) (inner : Regex)
  deriving DecidableEq

/-- A piece of a text, from one position to another. -/
structure Span where
  first : Nat
  last : Nat

def Span.cut (span : Span) (text : Text) : Text :=
  (text.drop span.first).take (span.last - span.first)

namespace Regex

/-- Exactly the given character. -/
def char (c : Char) : Regex := .one (.single c)

def row (parts : List Regex) : Regex := parts.foldr .andThen .empty

/-- Where a match has come to: how far into the text, what of the text is left, and the groups that
were closed, the latest first. -/
structure Cursor where
  position : Nat
  rest : Text
  groups : List (Nat × Span)

/-- The ways to take any number of characters of a class, the longest first. -/
def stretches (set : CharClass) (groups : List (Nat × Span)) (shorter : List Cursor)
    (position : Nat) : Text → List Cursor
  | [] => ⟨position, [], groups⟩ :: shorter
  | c :: rest =>
    if set.holds c then
      stretches set groups (⟨position, c :: rest, groups⟩ :: shorter) (position + 1) rest
    else ⟨position, c :: rest, groups⟩ :: shorter

/-- The ways to match an expression from a cursor on, in the order in which they are tried. -/
def runs : Regex → Cursor → List Cursor
  | .empty, cursor => [cursor]
  | .start, cursor => if cursor.position = 0 then [cursor] else []
  | .finish, cursor => if cursor.rest = [] then [cursor] else []
  | .one set, cursor =>
    match cursor.rest with
    | [] => []
    | c :: rest => if set.holds c then [⟨cursor.position + 1, rest, cursor.groups⟩] else []
  | .many set, cursor => stretches set cursor.groups [] cursor.position cursor.rest
  | .andThen first rest, cursor => (runs first cursor).flatMap (runs rest)
  | .group number inner, cursor =>
    (runs inner cursor).map fun last =>
      { last with groups := (number, ⟨cursor.position, last.position⟩) :: last.groups }

/-- The groups of the first match at a position, with the whole match as number 0. -/
def matchAt? (regex : Regex) (position : Nat) (rest : Text) : Option (List (Nat × Span)) :=
  (regex.runs ⟨position, rest, []⟩).head?.map fun last =>
    (0, ⟨position, last.position⟩) :: last.groups

/-- The groups of the leftmost match from a position on. -/
def find? (regex : Regex) (position : Nat) : Text → Option (List (Nat × Span))
  | [] => regex.matchAt? position []
  | c :: rest =>
    match regex.matchAt? position (c :: rest) with
    | some groups => some groups
    | none => regex.find? (position + 1) rest

/-- The groups of a match, with the text that they are pieces of. -/
structure Captures where
  text : Text
  groups : List (Nat × Span)

def Captures.get? (captures : Captures) (number : Nat) : Option Text :=
  (captures.groups.lookup number).map (·.cut captures.text)

def captures? (regex : Regex) (text : Text) : Option Captures :=
  (regex.find? 0 text).map (⟨text, ·⟩)

def isMatch (regex : Regex) (text : Text) : Bool := (regex.captures? text).isSome

end Regex

end DocBrowser
