import DocBrowser.Gzip.Member
import DocBrowser.Index.Basic
import DocBrowser.Json.Reader

/-!
Reading an index from a document: a JSON object whose members are objects, as it is or compressed.
-/

namespace DocBrowser

/-- Why an index could not be loaded. Everyone who waits for a load is given the same error. -/
inductive LoadError
  | fetch (location message : Text)
  /-- The server answered with a status that is no success. -/
  | status (location : Text) (code : Nat)
  /-- The document looks compressed and cannot be expanded. -/
  | decompress (fault : Gzip.Fault)
  | parse (error : Json.SyntaxError)

def LoadError.message : LoadError → Text
  | .fetch location message =>
    "failed to fetch package index from " ++ location ++ ": " ++ message
  | .status location code => "HTTP " ++ Text.ofNat code ++ " from " ++ location
  | .decompress fault => "failed to decompress package index: " ++ fault.message
  | .parse error => "package index is not valid JSON: " ++ error.message

namespace Index

/-- Reads packages and their types as they are listed, repeated names included. -/
def members (limit : Nat) : Json.Reader.Read (List (Text × List (Text × Json))) :=
  Json.Reader.objectOf limit Json.Reader.depthLimit fun depth =>
    Json.Reader.objectOf limit depth fun depth => Json.Reader.value limit depth

def ofJsonBytes (document : Bytes) : Except Json.SyntaxError Index :=
  (Json.Reader.whole members document).map fun packages =>
    Index.ofList (packages.map fun (name, types) => (name, PackageEntry.ofList types))

/-- Reads an index from a document, which is expanded first if it begins like a gzip member. -/
def ofBytes (document : Bytes) : Except LoadError Index :=
  if Gzip.isMember document then
    match Gzip.expand document with
    | .ok content => (ofJsonBytes content).mapError .parse
    | .error fault => .error (.decompress fault)
  else (ofJsonBytes document).mapError .parse

end Index

end DocBrowser
