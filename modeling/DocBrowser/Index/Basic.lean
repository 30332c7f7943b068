import DocBrowser.Json.Basic

/-!
The documentation index: packages by name, and in each its types by key. A key is the name of a type
or that name after its package and a point; both kinds may stand in one package. What is documented
about a type is a JSON value that nothing here looks into.
-/

namespace DocBrowser

@[ext]
structure PackageEntry where
  types : Dictionary Json
  deriving Inhabited

@[ext]
structure Index where
  packages : Dictionary PackageEntry
  deriving Inhabited

/-- The key of a type that carries its package's name. -/
def qualified (package typeName : Text) : Text := package ++ '.' :: typeName

namespace PackageEntry

/-- Collects types; of several under one key the last counts. -/
def ofList (types : List (Text × Json)) : PackageEntry := ⟨.ofList types⟩

def get? (entry : PackageEntry) (key : Text) : Option Json := entry.types.find? key

def contains (entry : PackageEntry) (key : Text) : Bool := entry.types.contains key

def size (entry : PackageEntry) : Nat := entry.types.size

def isEmpty (entry : PackageEntry) : Bool := entry.types.isEmpty

def keys (entry : PackageEntry) : List Text := entry.types.entries.map Prod.fst

/-- Finds a type by its bare name or else by its qualified one, with the key it was found under. -/
def lookup (entry : PackageEntry) (package typeName : Text) : Option (Text × Json) :=
  match entry.get? typeName with
  | some payload => some (typeName, payload)
  | none =>
    let key := qualified package typeName
    (entry.get? key).map fun payload => (key, payload)

/-- The name shown for a key: without the package and the point, unless nothing would be left. -/
def displayName (package key : Text) : Text :=
  match (Text.after? package key).bind (Text.after? ['.']) with
  | none => key
  | some [] => key
  | some (c :: rest) => c :: rest

/-- The name under which `lookup` finds a key: the shown name, unless that is itself a key. -/
def routeName (entry : PackageEntry) (package key : Text) : Text :=
  let name := displayName package key
  if name ≠ key ∧ entry.contains name then key else name

def toJson (entry : PackageEntry) : Json := .object entry.types.entries

end PackageEntry

namespace Index

/-- Collects packages; of several of one name the last counts as a whole. -/
def ofList (packages : List (Text × PackageEntry)) : Index := ⟨.ofList packages⟩

def package? (index : Index) (name : Text) : Option PackageEntry := index.packages.find? name

def size (index : Index) : Nat := index.packages.size

def isEmpty (index : Index) : Bool := index.packages.isEmpty

def entries (index : Index) : List (Text × PackageEntry) := index.packages.entries

def typeCount (index : Index) : Nat :=
  index.entries.foldr (fun (_, entry) count => entry.size + count) 0

def toJson (index : Index) : Json :=
  .object (index.entries.map fun (name, entry) => (name, entry.toJson))

end Index

end DocBrowser
