import DocBrowser.Files.Basic
import DocBrowser.Loader
import DocBrowser.Web.Address

/-!
Fetching the document at a location, which is a web address or the path of a file.
-/

namespace DocBrowser

def fetchFile (files : Files) (path : Text) : Except LoadError Bytes :=
  (files.read path).mapError fun error => .fetch path error.message

def fetch (files : Files) (location : Text) : Except LoadError Bytes :=
  if Web.isAddress location then .error (.fetch location (Web.failure location))
  else fetchFile files location

def Source.ofLocation (files : Files) (location : Text) : Source :=
  .constant location (fetch files location)

end DocBrowser
