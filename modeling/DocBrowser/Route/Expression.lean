import DocBrowser.Regex.Reader

/-!
The regular expression of a pattern. It is written segment by segment: the characters of a literal
stand for themselves, and a parameter becomes a group that takes anything but a slash. What is
written like this can always be read.
-/

namespace DocBrowser

/-- The segments of a path; there is always at least one. -/
def segments (path : Text) : List Text := path.splitOn '/'

def ofSegments (parts : List Text) : Text := Text.joined ['/'] parts

@[simp]
theorem ofSegments_singleton (part : Text) : ofSegments [part] = part := by
  simp [ofSegments, Text.joined]

@[simp]
theorem ofSegments_cons_cons (part next : Text) (rest : List Text) :
    ofSegments (part :: next :: rest) = part ++ '/' :: ofSegments (next :: rest) := by
  simp [ofSegments, Text.joined, List.intercalate_cons_cons]

inductive Segment
  | literal (text : Text)
  | param (name : Text)
  deriving DecidableEq

namespace Segment

/-- A segment that begins with a colon is a parameter. -/
def ofText : Text → Segment
  | ':' :: name => .param name
  | text => .literal text

def name? : Segment → Option Text
  | .literal _ => none
  | .param name => some name

/-- How a segment is written in the expression of its pattern. -/
def expression : Segment → Text
  | .literal text => Regex.escape text
  | .param _ => "([^/]+)"

end Segment

namespace Pattern

def names (parts : List Segment) : List Text := parts.filterMap Segment.name?

/-- The written expression for the paths that some segments match. -/
def expression (parts : List Segment) : Text :=
  '^' :: ofSegments (parts.map Segment.expression) ++ ['$']

end Pattern

/-! What is read of a written expression. -/

namespace Regex

/-- Any character but a slash. -/
def unslashed : CharClass where
  negated := true
  ranges := [('/', '/')]

/-- The group of a parameter. -/
def parameter (number : Nat) : Regex := .group number (.row [.one unslashed, .many unslashed])

end Regex

namespace Segment

/-- The parts of an expression that a segment is read as, after some groups. -/
def regexes (groups : Nat) : Segment → List Regex
  | .literal text => text.map Regex.char
  | .param _ => [Regex.parameter (groups + 1)]

end Segment

namespace Pattern

/-- The parts of an expression that some segments are read as, after some groups. -/
def regexes (groups : Nat) : List Segment → List Regex
  | [] => []
  | [part] => part.regexes groups
  | part :: next :: rest =>
    part.regexes groups ++ .char '/' :: regexes (groups + (names [part]).length) (next :: rest)

end Pattern

namespace Regex.Reader

variable {parts : List Regex} {around : List (Nat × List Regex)} {groups : Nat}

theorem foldlM_escapedChar (c : Char) :
    (escapedChar c).foldlM step ⟨.outside, parts, around, groups⟩ =
      some ⟨.outside, .char c :: parts, around, groups⟩ := by
  by_cases operator : c ∈ metaCharacters
  · rw [escapedChar, if_pos operator]
    simp [step, outside?, operator, push]
  · have other : ∀ d ∈ metaCharacters, c ≠ d := fun d there same => operator (same ▸ there)
    simp only [metaCharacters, List.forall_mem_cons] at other
    rw [escapedChar, if_neg operator]
    simp [step, outside?, other, push]

theorem foldlM_escape (text : Text) :
    (escape text).foldlM step ⟨.outside, parts, around, groups⟩ =
      some ⟨.outside, (text.map Regex.char).reverse ++ parts, around, groups⟩ := by
  induction text generalizing parts with
  | nil => rfl
  | cons c rest ih =>
    have split : escape (c :: rest) = escapedChar c ++ escape rest := rfl
    rw [split, List.foldlM_append, foldlM_escapedChar]
    simp [ih]

theorem foldlM_segment (part : Segment) :
    part.expression.foldlM step ⟨.outside, parts, around, groups⟩ =
      some ⟨.outside, (part.regexes groups).reverse ++ parts, around,
        groups + (Pattern.names [part]).length⟩ := by
  cases part with
  | literal text => exact foldlM_escape text
  | param name => rfl

theorem foldlM_segments (segments : List Segment) :
    (ofSegments (segments.map Segment.expression)).foldlM step ⟨.outside, parts, around, groups⟩ =
      some ⟨.outside, (Pattern.regexes groups segments).reverse ++ parts, around,
        groups + (Pattern.names segments).length⟩ := by
  induction segments generalizing parts groups with
  | nil => rfl
  | cons part rest ih =>
    cases rest with
    | nil =>
      rw [List.map_singleton, ofSegments_singleton]
      exact foldlM_segment part
    | cons next rest =>
      have slash (before : List Regex) (opened : Nat) :
          step ⟨.outside, before, around, opened⟩ '/' =
            some ⟨.outside, .char '/' :: before, around, opened⟩ := rfl
      have names : Pattern.names (part :: next :: rest) =
          Pattern.names [part] ++ Pattern.names (next :: rest) :=
        List.filterMap_append (l := [part])
      rw [List.map_cons, List.map_cons, ofSegments_cons_cons, ← List.map_cons,
        List.foldlM_append, foldlM_segment]
      simp [-List.map_cons, slash, ih, names, Pattern.regexes, Nat.add_assoc]

end Regex.Reader

/-- What the expression of some segments is read as. -/
theorem Pattern.read_expression (parts : List Segment) :
    Regex.read (expression parts) = some (.row (.start :: regexes 0 parts ++ [.finish])) := by
  have caret : (({} : Regex.Reader).step '^') = some ⟨.outside, [.start], [], 0⟩ := rfl
  rw [Regex.read, expression, List.cons_append, List.foldlM_cons, caret]
  simp [Regex.Reader.foldlM_segments, Regex.Reader.step, Regex.Reader.outside?,
    Regex.Reader.push, Regex.Reader.regex?]

end DocBrowser
