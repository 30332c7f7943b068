import DocBrowser.Route.Expression
import DocBrowser.Route.Percent

/-!
Route patterns. A pattern is read once, into a regular expression whose groups are its parameters,
and a path is matched with the expression. A literal segment has to be equal, and a parameter
`:name` takes any segment that is not empty.
-/

namespace DocBrowser

/-- Captured values under their names. -/
abbrev Params := List (Text × Text)

namespace Params

def get? (params : Params) (name : Text) : Option Text := params.lookup name

def get (params : Params) (name : Text) : Text := (params.get? name).getD []

end Params

/-- Why a pattern is refused. The expression of a pattern can always be read
(`Pattern.read_expression`), and no limit is set to its size. -/
inductive RouteError
  | invalidParam (pattern name : Text)
  | duplicateParam (pattern name : Text)
  deriving DecidableEq

def RouteError.message : RouteError → Text
  | .invalidParam pattern name =>
    "invalid parameter name ':" ++ name ++ "' in route pattern '" ++ pattern ++ "'"
  | .duplicateParam pattern name =>
    "parameter ':" ++ name ++ "' appears more than once in route pattern '" ++ pattern ++ "'"

structure Pattern where
  text : Text
  /-- What the whole of a path has to match. -/
  regex : Regex
  /-- The names of the parameters, in the order of their groups. -/
  params : List Text
  deriving DecidableEq

namespace Pattern

/-- The expression for names of parameters, as it is written. -/
def writtenNameRegex : Text := "^[A-Za-z_][A-Za-z0-9_]*$"

def nameRegex : Regex := (Regex.read writtenNameRegex).get (by rfl)

def isName (text : Text) : Bool := nameRegex.isMatch text

/-- The first segment whose parameter has a bad name or one of the names already `seen`. -/
def offence? (pattern : Text) (seen : List Text) : List Segment → Option RouteError
  | [] => none
  | .literal _ :: rest => offence? pattern seen rest
  | .param name :: rest =>
    if ¬ isName name then some (.invalidParam pattern name)
    else if name ∈ seen then some (.duplicateParam pattern name)
    else offence? pattern (name :: seen) rest

/-- The segments of a pattern. -/
def segments (text : Text) : List Segment := (DocBrowser.segments text).map Segment.ofText

/-- The pattern that a text stands for, if it is accepted. -/
def ofText (text : Text) : Pattern where
  text
  regex := (Regex.read (expression (segments text))).get (by rw [read_expression]; rfl)
  params := names (segments text)

def parse (text : Text) : Except RouteError Pattern :=
  match offence? text [] (segments text) with
  | none => .ok (ofText text)
  | some error => .error error

/-- The parameters of a match, each with what its group is decoded to. -/
def matches? (pattern : Pattern) (path : Text) : Option Params :=
  (pattern.regex.captures? path).map fun captures =>
    pattern.params.zipIdx.filterMap fun (name, i) =>
      (captures.get? (i + 1)).map fun value => (name, Percent.decode value)

/-- A text with its last slash removed, or with a slash added if it does not end in one. -/
def toggleSlash (text : Text) : Text :=
  if text.getLast? = some '/' then text.dropLast else text ++ ['/']

/-- Fills in the `:name` segments of a template. A parameter that was not captured is empty. -/
def interpolate (template : Text) (params : Params) : Text :=
  ofSegments ((DocBrowser.segments template).map fun part =>
    match Segment.ofText part with
    | .param name => params.get name
    | .literal text => text)

end Pattern

end DocBrowser
