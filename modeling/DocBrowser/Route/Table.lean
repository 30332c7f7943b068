import DocBrowser.Route.Pattern

/-!
Route tables. Routes are tried in the order in which their patterns were first registered, and the
first match decides. A view also answers its pattern with the other choice of trailing slash, by a
redirect to itself, unless that pattern has a route of its own.
-/

namespace DocBrowser

inductive ViewKind
  | front
  | package
  | type
  deriving DecidableEq

/-- What has to be there before a page can be made. -/
inductive Prerequisite
  | packages
  deriving DecidableEq

inductive Target
  | view (kind : ViewKind) (requires : Option Prerequisite)
  /-- Another path, given by a template. -/
  | redirect (template : Text)
  deriving DecidableEq

structure Route where
  pattern : Pattern
  target : Target
  deriving DecidableEq

inductive Resolution
  | view (kind : ViewKind) (requires : Option Prerequisite) (params : Params)
  | redirect (path : Text)
  deriving DecidableEq

structure Table where
  routes : List Route := []
  /-- Where paths go that no route matches. -/
  otherwise : Option Text := none
  deriving DecidableEq

/-- Whether a character ends the part of a path that routes look at. -/
def endsPath (c : Char) : Bool := c == '?' || c == '#'

/-- A path without query and fragment, and with a slash at its front. -/
def normalize (path : Text) : Text :=
  let kept := path.takeWhile (!endsPath ·)
  if kept.head? = some '/' then kept else '/' :: kept

namespace Table

def size (table : Table) : Nat := table.routes.length

def isEmpty (table : Table) : Bool := table.routes.isEmpty

def contains (table : Table) (pattern : Pattern) : Bool :=
  table.routes.any (·.pattern = pattern)

/-- Registers a target; a pattern that has one already keeps its place. -/
def insertRoute (pattern : Pattern) (target : Target) : List Route → List Route
  | [] => [⟨pattern, target⟩]
  | route :: rest =>
    if route.pattern = pattern then ⟨pattern, target⟩ :: rest
    else route :: insertRoute pattern target rest

def insert (table : Table) (pattern : Pattern) (target : Target) : Table :=
  { table with routes := insertRoute pattern target table.routes }

/-- Registers the redirect to a view from the pattern with the other trailing slash, unless that
pattern is empty or registered. -/
def addCompanion (table : Table) (text : Text) : Except RouteError Table := do
  let toggled := Pattern.toggleSlash text
  if toggled = [] then .ok table
  else do
    let companion ← Pattern.parse toggled
    if table.contains companion then .ok table
    else .ok (table.insert companion (.redirect text))

def addView (table : Table) (text : Text) (kind : ViewKind) (requires : Option Prerequisite) :
    Except RouteError Table := do
  let pattern ← Pattern.parse text
  (table.insert pattern (.view kind requires)).addCompanion text

def addRedirect (table : Table) (text template : Text) : Except RouteError Table := do
  let pattern ← Pattern.parse text
  .ok (table.insert pattern (.redirect template))

def withOtherwise (table : Table) (path : Text) : Table := { table with otherwise := some path }

def resolution (params : Params) : Target → Resolution
  | .view kind requires => .view kind requires params
  | .redirect template => .redirect (Pattern.interpolate template params)

def firstMatch? (path : Text) : List Route → Option Resolution
  | [] => none
  | route :: rest =>
    match route.pattern.matches? path with
    | some params => some (resolution params route.target)
    | none => firstMatch? path rest

def resolve (table : Table) (path : Text) : Option Resolution :=
  match firstMatch? (normalize path) table.routes with
  | some found => some found
  | none => table.otherwise.map .redirect

/-- The routes of the browser: the front page, the page of a type, the page of a package, and the
front page for everything else. -/
def standard : Except RouteError Table := do
  let table ← ({} : Table).addView "/" .front none
  let table ← table.addView "/docs/:package/:type" .type (some .packages)
  let table ← table.addView "/docs/:package/" .package (some .packages)
  .ok (table.withOtherwise "/")

end Table

end DocBrowser
