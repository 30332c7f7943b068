import DocBrowser.Index.Basic
import DocBrowser.Route.Table

/-!
Pages before they are rendered. A page keeps the names it was asked for, whether or not the index
has them.
-/

namespace DocBrowser

structure PackageView where
  packages : Option Index
  package : Text

structure TypeView where
  packages : Option Index
  package : Text
  name : Text
  /-- The key under which the type was found. -/
  key : Option Text

inductive View
  /-- The front page, which lists the packages if the index is there. -/
  | front (packages : Option Index)
  | package (view : PackageView)
  | type (view : TypeView)

def Params.package (params : Params) : Text := params.get "package"

def Params.typeName (params : Params) : Text := params.get "type"

namespace PackageView

def ofParams (packages : Option Index) (params : Params) : PackageView :=
  { packages, package := params.package }

def entry? (view : PackageView) : Option PackageEntry :=
  view.packages.bind (·.package? view.package)

end PackageView

namespace TypeView

/-- The page of the type that the parameters name, with the key that it is found under. -/
def ofParams (packages : Option Index) (params : Params) : TypeView :=
  let package := params.package
  let name := params.typeName
  let found := (packages.bind (·.package? package)).bind (·.lookup package name)
  { packages, package, name, key := found.map Prod.fst }

def entry? (view : TypeView) : Option PackageEntry :=
  view.packages.bind (·.package? view.package)

def payload? (view : TypeView) : Option Json := do
  let entry ← view.entry?
  let key ← view.key
  entry.get? key

end TypeView

def View.ofRoute (kind : ViewKind) (packages : Option Index) (params : Params) : View :=
  match kind with
  | .front => .front packages
  | .package => .package (.ofParams packages params)
  | .type => .type (.ofParams packages params)

end DocBrowser
