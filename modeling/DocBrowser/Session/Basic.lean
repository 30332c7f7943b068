import DocBrowser.Page.Render
import DocBrowser.Session.Command
import DocBrowser.Session.History

/-!
An interactive session: one line after the other is obeyed, and the pages shown make up a history
that one can go back in. The history moves only when a page was shown.
-/

namespace DocBrowser

/-- What a session needs to know: the routes, and how pages are shown. -/
structure Surroundings where
  table : Table
  options : Page.Options

structure Session where
  loader : Loader
  history : History := {}

namespace Session

def failure (message : Text) : Styled := Page.line [Page.failureSign, " ", .styled .red message]

def adviceSign : Piece := .styled .yellow "⚠️"

def helpText : Styled :=
  let entry (word : String) (rest : String) : Styled :=
    Page.line ["  ", .styled .green word, rest]
  Page.line ["Commands:"] ++
    entry "/<path>" ("                 - Open a page " ++
      "(/, /docs/<package>/, /docs/<package>/<type>)") ++
    entry "back" "                    - Go to the previous page" ++
    entry "packages" "                - List all packages" ++
    entry "search" " <query>          - Search type names" ++
    entry "status" "                  - Show index load state" ++
    entry "quit" "                    - Exit" ++
    Page.line []

/-- Navigates to a path and shows the page. The path of the page comes along if there is one. -/
def goTo (around : Surroundings) (path : Text) (loader : Loader) :
    Styled × Option Text × Loader :=
  let (visit, loader) := navigate around.table loader path
  match visit.result? with
  | some (.ok nav) => (Page.navigation around.options nav, some nav.path, loader)
  | some (.error error) => (failure error.message, none, loader)
  | none => ([], none, loader)

def list (listing : Index → Styled) (session : Session) : Styled × Session :=
  match session.loader.await with
  | (.done (.ok shared), loader) => (listing shared.index, { session with loader })
  | (.done (.error error), loader) => (failure error.message, { session with loader })
  | (.pending, loader) => ([], { session with loader })

def visit (around : Surroundings) (path : Text) (session : Session) : Styled × Session :=
  match goTo around path session.loader with
  | (page, some shown, loader) => (page, ⟨loader, session.history.visit shown⟩)
  | (page, none, loader) => (page, { session with loader })

def back (around : Surroundings) (session : Session) : Styled × Session :=
  match session.history.previous? with
  | none => (Page.line [Page.hintSign, " Nothing to go back to"], session)
  | some path =>
    match goTo around path session.loader with
    | (page, some shown, loader) => (page, ⟨loader, session.history.goBack shown⟩)
    | (page, none, loader) => (page, { session with loader })

/-- Obeys a command. Quitting changes nothing; what follows it is not obeyed. -/
def obey (around : Surroundings) (session : Session) : Command → Styled × Session
  | .nothing => ([], session)
  | .visit path => session.visit around path
  | .back => session.back around
  | .packages => session.list Page.packageList
  | .search query =>
    if query.isEmpty then (Page.line [adviceSign, " Usage: search <query>"], session)
    else session.list (Page.search · query)
  | .status =>
    let loader := session.loader
    (Page.status loader.status loader.source.location loader.fetches, session)
  | .help => (helpText, session)
  | .quit => (Page.line ["Goodbye! 👋"], session)
  | .unknown word =>
    (Page.line [adviceSign, .plain (" Unknown command '" ++ word ++ "'. Type "),
      .styled .green "help", " for a list of commands."], session)

def prompt : Styled := [.styled .boldBlue "pkgdocs>", " "]

/-- The first page of a session, and the help under it. -/
def start (around : Surroundings) (loader : Loader) (path : Option Text) : Styled × Session :=
  let (page, session) := visit around (path.getD ['/']) { loader }
  (page ++ Page.line [] ++ helpText, session)

inductive Reply
  | goesOn (shown : Styled) (session : Session)
  | over (shown : Styled) (session : Session)
  /-- The line is no text. -/
  | brokenOff (message : Text)

def reply (around : Surroundings) (session : Session) (line : Bytes) : Reply :=
  match Utf8.decode line with
  | .error (position, fault) => .brokenOff (fault.message position)
  | .ok text =>
    let command := Command.ofLine text
    let (shown, session) := session.obey around command
    if command = .quit then .over shown session else .goesOn shown session

structure Transcript where
  shown : Styled
  session : Session
  /-- Why the session was broken off, if it was. -/
  failure : Option Text := none

/-- Holds a session on lines, until one ends it or there are no more. -/
def hold (around : Surroundings) (session : Session) : List Bytes → Transcript
  | [] => { shown := prompt ++ Page.line [], session }
  | line :: rest =>
    match session.reply around line with
    | .brokenOff message => { shown := prompt, session, failure := some message }
    | .over shown session => { shown := prompt ++ shown, session }
    | .goesOn shown session =>
      let later := session.hold around rest
      { later with shown := prompt ++ shown ++ later.shown }

end Session

end DocBrowser
