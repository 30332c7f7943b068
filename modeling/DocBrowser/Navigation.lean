import DocBrowser.Loader
import DocBrowser.View

/-!
Navigating to a page. Redirects are followed first, ten at most. A page that needs the index waits
for it; a page that does not is made at once, with the index if it is there. A visit is a navigation
under way: it can be polled, polled along with others, or left alone for good.
-/

namespace DocBrowser

inductive NavigationError
  | loadFailed (error : LoadError)
  | redirectLoop (start : Text)
  | noRoute (path : Text)

def NavigationError.message : NavigationError → Text
  | .loadFailed error => "could not load the package index: " ++ error.message
  | .redirectLoop start => "too many redirects while navigating from '" ++ start ++ "'"
  | .noRoute path => "no route matches '" ++ path ++ "'"

structure Navigation where
  /-- The path whose page is shown. -/
  path : Text
  /-- The paths that were left by a redirect, in order. -/
  redirects : List Text
  params : Params
  view : View

/-- The end of a chain of redirects, where a page has still to be made. -/
structure Landing where
  path : Text
  redirects : List Text
  kind : ViewKind
  requires : Option Prerequisite
  params : Params

inductive Chain
  | lands (landing : Landing)
  | loops
  | lost (path : Text)

def maxRedirects : Nat := 10

namespace Table

/-- Follows redirects from a path, `left` at most; those followed already are in `redirects`. -/
def follow (table : Table) : Nat → Text → List Text → Chain
  | left, path, redirects =>
    match table.resolve path with
    | some (.view kind requires params) => .lands { path, redirects, kind, requires, params }
    | some (.redirect target) =>
      match left with
      | 0 => .loops
      | left + 1 => follow table left (normalize target) (redirects ++ [path])
    | none => .lost path

def chain (table : Table) (path : Text) : Chain := table.follow maxRedirects (normalize path) []

end Table

def Landing.navigation (landing : Landing) (packages : Option Index) : Navigation :=
  { path := landing.path
    redirects := landing.redirects
    params := landing.params
    view := .ofRoute landing.kind packages landing.params }

inductive Visit
  /-- Nothing has happened yet. -/
  | begun (path : Text)
  /-- The page waits for a load. -/
  | waiting (landing : Landing) (load : Nat)
  | done (result : Except NavigationError Navigation)

namespace Visit

def pollLoad (landing : Landing) (number : Nat) (loader : Loader) : Visit × Loader :=
  match loader.poll number with
  | (.pending, loader) => (.waiting landing number, loader)
  | (.done (.ok shared), loader) => (.done (.ok (landing.navigation (some shared.index))), loader)
  | (.done (.error error), loader) => (.done (.error (.loadFailed error)), loader)

def poll (table : Table) (loader : Loader) : Visit → Visit × Loader
  | .begun path =>
    match table.chain path with
    | .loops => (.done (.error (.redirectLoop (normalize path))), loader)
    | .lost path => (.done (.error (.noRoute path)), loader)
    | .lands landing =>
      match landing.requires with
      | none => (.done (.ok (landing.navigation (loader.cached.map (·.index)))), loader)
      | some .packages =>
        let (number, loader) := loader.load
        pollLoad landing number loader
  | .waiting landing number => pollLoad landing number loader
  | .done result => (.done result, loader)

def result? : Visit → Option (Except NavigationError Navigation)
  | .done result => some result
  | _ => none

def pollUpTo (table : Table) (limit : Nat) (visit : Visit) (loader : Loader) : Visit × Loader :=
  match limit, visit with
  | 0, visit => (visit, loader)
  | _ + 1, .done result => (.done result, loader)
  | limit + 1, visit =>
    let (visit, loader) := visit.poll table loader
    visit.pollUpTo table limit loader

/-- How many polls a visit that was polled before still needs. -/
def pollsLeft (loader : Loader) : Visit → Nat
  | .waiting _ number => loader.pollsLeft number
  | _ => 0

def pollAll (table : Table) : List Visit → Loader → List Visit × Loader
  | [], loader => ([], loader)
  | visit :: rest, loader =>
    let (visit, loader) := visit.poll table loader
    let (rest, loader) := pollAll table rest loader
    (visit :: rest, loader)

def rounds (table : Table) : Nat → List Visit → Loader → List Visit × Loader
  | 0, visits, loader => (visits, loader)
  | count + 1, visits, loader =>
    let (visits, loader) := pollAll table visits loader
    rounds table count visits loader

end Visit

def navigate (table : Table) (loader : Loader) (path : Text) : Visit × Loader :=
  let (visit, loader) := (Visit.begun path).poll table loader
  visit.pollUpTo table (visit.pollsLeft loader) loader

/-- Navigates to several paths at once, polling them in turn until all are done. -/
def navigateAll (table : Table) (loader : Loader) (paths : List Text) : List Visit × Loader :=
  let (visits, loader) := Visit.pollAll table (paths.map .begun) loader
  let needed := (visits.map (·.pollsLeft loader)).foldl max 0
  Visit.rounds table needed visits loader

end DocBrowser
