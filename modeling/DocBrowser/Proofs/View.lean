import DocBrowser.Proofs.Index.Names
import DocBrowser.View

/-!
What the page of a type shows. The page keeps the key under which its type was found, and looks the
payload up again by that key. Both lookups agree, since a key that was found stays a key.
-/

namespace DocBrowser

variable {packages : Option Index} {params : Params} {index : Index} {entry : PackageEntry}
  {package name key : Text} {payload : Json}

/-- A page of a type is the one that its parameters ask for. -/
theorem View.eq_of_ofRoute_type {kind : ViewKind} {view : TypeView}
    (page : View.ofRoute kind packages params = .type view) :
    kind = .type ∧ view = .ofParams packages params := by
  cases kind with
  | front => cases page
  | package => cases page
  | type =>
    cases page
    exact ⟨rfl, rfl⟩

namespace TypeView

/-- What a lookup by the parameters of a page finds: a key and its payload. -/
def found? (packages : Option Index) (params : Params) : Option (Text × Json) :=
  (packages.bind (·.package? params.package)).bind (·.lookup params.package params.typeName)

theorem key_ofParams (packages : Option Index) (params : Params) :
    (ofParams packages params).key = (found? packages params).map Prod.fst :=
  rfl

/-- The payload is looked up by the key again, and is the one that was found. -/
theorem payload?_ofParams (packages : Option Index) (params : Params) :
    (ofParams packages params).payload? = (found? packages params).map Prod.snd := by
  have again : (ofParams packages params).payload? =
      (packages.bind (·.package? params.package)).bind fun entry =>
        (ofParams packages params).key.bind entry.get? := rfl
  rw [again, key_ofParams, found?]
  cases packages.bind (·.package? params.package) with
  | none => rfl
  | some entry =>
    rw [Option.bind_some, Option.bind_some]
    cases found : entry.lookup params.package params.typeName with
    | none => rfl
    | some member => exact (PackageEntry.lookup_eq_some_iff.mp found).1

theorem isSome_key_ofParams (packages : Option Index) (params : Params) :
    (ofParams packages params).key.isSome = (ofParams packages params).payload?.isSome := by
  rw [key_ofParams, payload?_ofParams, Option.isSome_map, Option.isSome_map]

theorem found?_eq_lookup (held : TypeView.entry? (ofParams packages params) = some entry) :
    found? packages params = entry.lookup params.package params.typeName := by
  have there : packages.bind (·.package? params.package) = some entry := held
  rw [found?, there, Option.bind_some]

theorem ofParams_of_found? (found : found? packages params = some (key, payload)) :
    (ofParams packages params).key = some key ∧
      (ofParams packages params).payload? = some payload := by
  rw [key_ofParams, payload?_ofParams, found]
  exact ⟨rfl, rfl⟩

theorem ofParams_of_found?_eq_none (missing : found? packages params = none) :
    (ofParams packages params).key = none ∧ (ofParams packages params).payload? = none := by
  rw [key_ofParams, payload?_ofParams, missing]
  exact ⟨rfl, rfl⟩

/-- The page of a type that has a key found it under its name. -/
theorem exists_lookup (kept : (ofParams packages params).key = some key)
    (held : TypeView.entry? (ofParams packages params) = some entry) :
    ∃ payload, entry.lookup params.package params.typeName = some (key, payload) := by
  rw [key_ofParams, found?_eq_lookup held, Option.map_eq_some_iff] at kept
  obtain ⟨⟨_, payload⟩, looked, rfl⟩ := kept
  exact ⟨payload, looked⟩

theorem ofParams_eq (found : index.package? package = some entry)
    (resolved : entry.lookup package name = some (key, payload)) :
    ofParams (some index) [("package", package), ("type", name)] =
      ⟨some index, package, name, some key⟩ := by
  have packageParam : Params.package [("package", package), ("type", name)] = package := rfl
  have typeParam : Params.typeName [("package", package), ("type", name)] = name := rfl
  simp only [ofParams, packageParam, typeParam, Option.bind_some, found, resolved,
    Option.map_some]

/-- The page of a type keeps the names it was asked for. It shows what the package has under the
bare name, else what it has under the qualified one, else nothing, and what it finds again under the
key it keeps is what the lookup found. -/
theorem type_pages_follow_both_keys (packages : Option Index) (params : Params) :
    let package := (params.get? "package").getD []
    let name := (params.get? "type").getD []
    let view := TypeView.ofParams packages params
    view.name = name ∧ view.package = package ∧
    (∀ entry, view.entry? = some entry ↔
      ∃ index, packages = some index ∧ (package, entry) ∈ index.entries) ∧
    (∀ entry, view.entry? = some entry →
      (∀ payload, (name, payload) ∈ entry.types.entries →
        view.key = some name ∧ view.payload? = some payload) ∧
      (∀ payload, name ∉ entry.keys → (package ++ '.' :: name, payload) ∈ entry.types.entries →
        view.key = some (package ++ '.' :: name) ∧ view.payload? = some payload) ∧
      (name ∉ entry.keys → package ++ '.' :: name ∉ entry.keys →
        view.key = none ∧ view.payload? = none) ∧
      ∀ key payload, entry.lookup package name = some (key, payload) →
        view.key = some key ∧ entry.get? key = some payload ∧ view.payload? = some payload) ∧
    (view.entry? = none → view.key = none ∧ view.payload? = none) ∧
    view.key.isSome = view.payload?.isSome := by
  intro package name view
  refine ⟨rfl, rfl, ?_, ?_, ?_, isSome_key_ofParams packages params⟩
  · intro entry
    simp only [← Index.package?_eq_some_iff]
    exact Option.bind_eq_some_iff
  · intro entry held
    have looked : found? packages params = entry.lookup package name := found?_eq_lookup held
    simp only [← PackageEntry.get?_eq_some_iff, ← PackageEntry.get?_eq_none_iff]
    refine ⟨?_, ?_, ?_, ?_⟩
    · intro payload bare
      apply ofParams_of_found?
      rw [looked, PackageEntry.lookup_eq_some_iff]
      exact ⟨bare, .inl rfl⟩
    · intro payload free pointed
      apply ofParams_of_found?
      rw [looked, PackageEntry.lookup_eq_some_iff]
      exact ⟨pointed, .inr ⟨free, rfl⟩⟩
    · intro free unpointed
      apply ofParams_of_found?_eq_none
      rw [looked, PackageEntry.lookup_eq_none_iff]
      exact ⟨free, unpointed⟩
    · intro key payload found
      obtain ⟨kept, shown⟩ := ofParams_of_found? (looked.trans found)
      exact ⟨kept, (PackageEntry.lookup_eq_some_iff.mp found).1, shown⟩
  · intro absent
    have missing : packages.bind (·.package? params.package) = none := absent
    apply ofParams_of_found?_eq_none
    rw [found?, missing, Option.bind_none]

/-- A package without a name, and a type in it that has a qualified key all the same. -/
def nameless : PackageEntry := .ofList [(".T", .bool true)]

/-- Parameters without a package ask for the one without a name. -/
theorem missing_package_counts_as_empty :
    let view := TypeView.ofParams (some (.ofList [("", nameless)])) [("type", "T")]
    let member : Text × Json := (".T", .bool true)
    view.entry? = some nameless ∧ ("T" : Text) ∉ nameless.keys ∧
      member ∈ nameless.types.entries ∧ view.name = "T" ∧ view.package = [] ∧
      view.key = some member.1 ∧ view.payload? = some member.2 := by
  intro view member
  have held : view.entry? = some nameless := rfl
  have free : ("T" : Text) ∉ nameless.keys := PackageEntry.get?_eq_none_iff.mp rfl
  have there : member ∈ nameless.types.entries := PackageEntry.get?_eq_some_iff.mp rfl
  obtain ⟨name, package, _, shows, _⟩ :=
    type_pages_follow_both_keys (some (.ofList [("", nameless)])) [("type", "T")]
  obtain ⟨key, payload⟩ := (shows nameless held).2.1 member.2 free there
  exact ⟨held, free, there, name, package, key, payload⟩

end TypeView

end DocBrowser
