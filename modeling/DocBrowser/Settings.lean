import DocBrowser.Files.Basic
import DocBrowser.Page.Theme
import DocBrowser.Text.Utf8
import DocBrowser.Toml.Document
import DocBrowser.Web.Address

/-!
The settings of the program. They are read from a TOML document; what it leaves out, and everything
if it is unusable, has a default.
-/

namespace DocBrowser

structure Settings where
  baseUrl : Text := "http://localhost:8080"
  /-- Where the index is on the server; without a server, where it is at all. -/
  indexPath : Text := "/resources/shortcuts.json"
  /-- How long to wait for an answer of the server. -/
  timeoutSeconds : Nat := 30
  highlight : Bool := true
  theme : Text := Theme.defaultName
  deriving DecidableEq

inductive SettingsError
  /-- There is no text. -/
  | unreadable
  /-- The text is no TOML document, or a setting has a value of a wrong kind. -/
  | malformed
  deriving DecidableEq

namespace Settings

def member {α : Type} (name : Text) (default : α) (ofValue : Toml.Value → Option α)
    (root : Toml.Members) : Option α :=
  match Sorted.find? name root with
  | none => some default
  | some value => ofValue value

def textOf : Toml.Value → Option Text
  | .string text => some text
  | _ => none

def flagOf : Toml.Value → Option Bool
  | .boolean b => some b
  | _ => none

def countOf : Toml.Value → Option Nat
  | .integer (.ofNat n) => if n < 0x10000000000000000 then some n else none
  | _ => none

/-- The settings in the root table of a document. Other members do not matter. -/
def ofMembers? (root : Toml.Members) : Option Settings := do
  let standard : Settings := {}
  let baseUrl ← member "base_url" standard.baseUrl textOf root
  let indexPath ← member "index_path" standard.indexPath textOf root
  let timeoutSeconds ← member "timeout_secs" standard.timeoutSeconds countOf root
  let highlight ← member "highlight" standard.highlight flagOf root
  let theme ← member "theme" standard.theme textOf root
  some { baseUrl, indexPath, timeoutSeconds, highlight, theme }

def ofBytes (document : Bytes) : Except SettingsError Settings :=
  match Utf8.decode? document with
  | none => .error .unreadable
  | some text =>
    match (Toml.ofText? text).bind ofMembers? with
    | some settings => .ok settings
    | none => .error .malformed

def read (files : Files) (path : Text) : Except SettingsError Settings :=
  match files.read path with
  | .ok document => ofBytes document
  | .error _ => .error .unreadable

/-- The settings in a file, or the defaults if it is missing or unusable. -/
def load (files : Files) (path : Text) : Settings :=
  match read files path with
  | .ok settings => settings
  | .error _ => {}

/-- Where the index is: below the server's address, unless there is none or the path is a web
address itself. -/
def location (settings : Settings) : Text :=
  if Web.isAddress settings.indexPath ∨ settings.baseUrl = [] then settings.indexPath
  else
    let base := (settings.baseUrl.reverse.dropWhile (· == '/')).reverse
    if settings.indexPath.head? = some '/' then base ++ settings.indexPath
    else base ++ '/' :: settings.indexPath

end Settings

end DocBrowser
