import DocBrowser.CommandLine.Words
import DocBrowser.Fetch
import DocBrowser.Session.Basic
import DocBrowser.Settings
import DocBrowser.Settings.Template

/-!
Carrying out a command line: what is printed, which files are written, and whether it succeeded.
-/

namespace DocBrowser

structure Outcome where
  output : Text := []
  failure : Option Text := none
  written : List (Text × Bytes) := []

namespace Outcome

def status (outcome : Outcome) : Nat := if outcome.failure.isSome then 1 else 0

def complaint (colour : Bool) (outcome : Outcome) : Text :=
  match outcome.failure with
  | none => []
  | some message => '\n' :: Styled.paint colour (Session.failure message)

end Outcome

/-- The lines of an input, with their line ends. -/
def inputLines (input : Bytes) : List Bytes :=
  go [] input
where
  go (done : Bytes) : Bytes → List Bytes
    | [] => if done.isEmpty then [] else [done.reverse]
    | b :: rest => if b = 0x0A then (b :: done).reverse :: go [] rest else go (b :: done) rest

namespace Invocation

def usesColour (invocation : Invocation) (colour : Bool) : Bool := colour && !invocation.colourless

def settings (invocation : Invocation) (files : Files) : Settings :=
  .load files (invocation.settingsPath.getD Settings.standardPath)

def indexLocation (invocation : Invocation) (files : Files) : Text :=
  invocation.location.getD (invocation.settings files).location

def pageOptions (invocation : Invocation) (files : Files) (columns : Option Nat) : Page.Options :=
  let settings := invocation.settings files
  { highlight := settings.highlight && !invocation.plain, theme := settings.theme, columns }

def loader (invocation : Invocation) (files : Files) : Loader :=
  .new (.ofLocation files (invocation.indexLocation files))

def showPage (table : Table) (options : Page.Options) (loader : Loader) (path : Text) :
    Except Text Styled :=
  match (navigate table loader path).1.result? with
  | some (.ok nav) => .ok (Page.navigation options nav)
  | some (.error error) => .error error.message
  | none => .ok []

def showListing (loader : Loader) (listing : Index → Styled) : Except Text Styled :=
  match loader.await.1 with
  | .done (.ok shared) => .ok (listing shared.index)
  | .done (.error error) => .error error.message
  | .pending => .ok []

def browse (around : Surroundings) (loader : Loader) (path : Option Text) (input : Bytes) :
    Styled × Option Text :=
  let (greeting, session) := Session.start around loader path
  let transcript := session.hold around (inputLines input)
  (greeting ++ transcript.shown, transcript.failure)

/-- Writes the standard settings file, unless there is one already. -/
def writeSettings (colour : Bool) (files : Files) (force : Bool) : Outcome :=
  let path := Settings.standardPath
  if files.present path && !force then
    { failure := some (path ++ " already exists. Use --force to overwrite.") }
  else match files.writeFault path with
    | some fault => { failure := some ("Failed to create " ++ path ++ ": " ++ fault.message) }
    | none =>
      { output := Settings.created.paint colour
        written := [(path, Utf8.encode Settings.template)] }

def outcomeOf (colour : Bool) : Except Text Styled → Outcome
  | .ok page => { output := page.paint colour }
  | .error message => { failure := some message }

/-- Carries out a command line, given the files around it, its input, the width of the terminal if
there is one, and the standard routes. -/
def runWith (table : Table) (invocation : Invocation) (files : Files) (colour : Bool)
    (input : Bytes) (columns : Option Nat) : Outcome :=
  let colour := invocation.usesColour colour
  let options := invocation.pageOptions files columns
  let loader := invocation.loader files
  match invocation.task with
  | .page path => outcomeOf colour (showPage table options loader path)
  | .browse path =>
    let (shown, failure) := browse ⟨table, options⟩ loader path input
    { output := shown.paint colour, failure }
  | .packages => outcomeOf colour (showListing loader Page.packageList)
  | .search query => outcomeOf colour (showListing loader (Page.search · query))
  | .init force => writeSettings colour files force

def run (invocation : Invocation) (files : Files) (colour : Bool) (input : Bytes)
    (columns : Option Nat := none) : Outcome :=
  match Table.standard with
  | .ok table => invocation.runWith table files colour input columns
  | .error error => { failure := some error.message }

end Invocation

end DocBrowser
