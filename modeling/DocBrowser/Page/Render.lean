import DocBrowser.Index.Search
import DocBrowser.Navigation
import DocBrowser.Page.Theme

/-!
Pages and listings as styled text.
-/

namespace DocBrowser.Page

structure Options where
  highlight : Bool
  theme : Text
  /-- The width of the terminal, if there is one. -/
  columns : Option Nat := none

def line (pieces : Styled) : Styled := pieces ++ [.plain ['\n']]

def failureSign : Piece := .styled .red "❌"

def hintSign : Piece := .styled .blue "ℹ️"

def bullet : Piece := .styled .cyan "•"

/-- The length of the rule under a title: the width of the terminal, within bounds. -/
def ruleLength (options : Options) : Nat := min (max (options.columns.getD 80) 40) 120

def titleRule (options : Options) : Piece :=
  .styled .dimmed (List.replicate (ruleLength options) '─')

def typePath (package link : Text) : Text := "/docs/" ++ package ++ '/' :: link

def packageList (index : Index) : Styled :=
  line ["\n", .styled .cyan "📚", .plain (" " ++ Text.ofNat index.size ++ " package(s):\n")] ++
    index.entries.flatMap fun (name, entry) =>
      line ["  ", bullet, " ", .styled .green name, " ",
        .styled .dimmed ("(" ++ Text.ofNat entry.size ++ " types)")]

def front (packages : Option Index) : Styled :=
  line [.styled .cyan "╔═══════════════════════════════════════════╗"] ++
    line [.styled .cyan "║   Package Documentation                   ║"] ++
    line [.styled .cyan "╚═══════════════════════════════════════════╝"] ++
    match packages with
    | some index => packageList index
    | none =>
      line ["\n", hintSign, " Open ", .styled .green "/docs/<package>/", " to browse a package"]

def packageMissing (package : Text) : Styled :=
  line [failureSign, .plain (" Package '" ++ package ++ "' not found")]

/-- A type in the list of its package, with the path of its page. -/
def typeItem (entry : PackageEntry) (package key : Text) : Styled :=
  let name := entry.routeName package key
  line ["  ", bullet, " ", .styled .green name, "  ", .styled .dimmed (typePath package name)]

def package (view : PackageView) (options : Options) : Styled :=
  match view.entry? with
  | none => packageMissing view.package
  | some entry =>
    line ["\n", .styled .cyan "📦", " Package ", .styled .boldYellow view.package, "\n",
        titleRule options] ++
      if entry.isEmpty then line ["  ", hintSign, " No types documented"]
      else
        entry.keys.flatMap (typeItem entry view.package) ++
          line ["\n", .styled .green "✓", " Total: ", .styled .bold (Text.ofNat entry.size),
            " type(s)"]

def payload (options : Options) (value : Json) : Text :=
  if options.highlight then (Theme.ofName options.theme).highlight value else value.pretty

def type (view : TypeView) (options : Options) : Styled :=
  line ["\n", .styled .cyan "📄", " ", .styled .yellow view.package, " ", .styled .dimmed "›",
      " ", .styled .boldGreen view.name, "\n", titleRule options] ++
    if view.entry?.isNone then packageMissing view.package
    else match view.payload? with
      | none =>
        line [failureSign, .plain (" Type '" ++ view.name ++ "' not found in " ++ view.package)]
      | some value => line [.plain (payload options value)]

def view (options : Options) : View → Styled
  | .front packages => front packages
  | .package page => package page options
  | .type page => type page options

/-- The page that a navigation ended at, after a note if it was redirected. -/
def navigation (options : Options) (nav : Navigation) : Styled :=
  (match nav.redirects with
    | [] => []
    | first :: _ => line [.styled .dimmed ("↪ " ++ first ++ " redirected to " ++ nav.path)]) ++
    view options nav.view

def searchLimit : Nat := 20

/-- A result of a search, with the path of its page. -/
def searchItem (index : Index) : Text × Text → Styled
  | (package, key) =>
    let name := PackageEntry.displayName package key
    let link := ((index.package? package).map (·.routeName package key)).getD name
    line ["  ", bullet, " ", .styled .yellow package, ".", .styled .green name, "  ",
      .styled .dimmed (typePath package link)]

def search (index : Index) (query : Text) : Styled :=
  let results := index.search query
  if results.isEmpty then line [hintSign, .plain (" No results found for '" ++ query ++ "'")]
  else
    line ["\n", .styled .cyan "🔍",
        .plain (" Found " ++ Text.ofNat results.length ++ " result(s):\n")] ++
      (results.take searchLimit).flatMap (searchItem index) ++
      if searchLimit < results.length then
        line [.plain ("\n  ... and " ++ Text.ofNat (results.length - searchLimit) ++ " more")]
      else []

def loadState : LoadStatus → Piece
  | .empty => "not loaded"
  | .pending => .styled .yellow "loading"
  | .resolved packages types =>
    .styled .green ("loaded (" ++ Text.ofNat packages ++ " packages, " ++ Text.ofNat types ++
      " types)")
  | .failed error => .styled .red ("failed: " ++ error.message)

/-- The state of a loader, where it loads from, and how often it has asked. -/
def status (status : LoadStatus) (location : Text) (fetches : Nat) : Styled :=
  line [.styled .cyan "📚", " Index: ", loadState status] ++
    line ["  ", .styled .blue "•", .plain (" source: " ++ location)] ++
    line ["  ", .styled .blue "•", .plain (" fetches: " ++ Text.ofNat fetches)]

end DocBrowser.Page
