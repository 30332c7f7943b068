import DocBrowser.Index.Basic
import DocBrowser.Proofs.Dictionary

/-!
Names of types in links. The name that a key is linked under is never the key of another type.
-/

namespace DocBrowser

theorem Text.after?_eq_some_iff {lead text rest : Text} :
    Text.after? lead text = some rest ↔ text = lead ++ rest := by
  rw [Text.after?]
  split
  · next leads =>
    obtain ⟨after, rfl⟩ := List.isPrefixOf_iff_prefix.mp leads
    simp
  · next leads =>
    constructor
    · intro found
      cases found
    · rintro rfl
      exact absurd (List.isPrefixOf_iff_prefix.mpr (List.prefix_append lead rest)) leads

theorem Index.package?_eq_some_iff {index : Index} {package : Text} {entry : PackageEntry} :
    index.package? package = some entry ↔ (package, entry) ∈ index.entries :=
  Dictionary.find?_eq_some_iff

namespace PackageEntry

variable {entry : PackageEntry} {package key : Text}

/-- The shown name of a key is the key itself, or that without the package and the point. -/
theorem displayName_cases (package key : Text) :
    displayName package key = key ∨
      displayName package key ≠ [] ∧ qualified package (displayName package key) = key := by
  rw [displayName]
  split
  · exact .inl rfl
  · exact .inl rfl
  · next c rest found =>
    obtain ⟨dotted, after, name⟩ := Option.bind_eq_some_iff.mp found
    rw [Text.after?_eq_some_iff] at after name
    right
    simp [qualified, after, name]

theorem get?_eq_some_iff {payload : Json} :
    entry.get? key = some payload ↔ (key, payload) ∈ entry.types.entries :=
  Dictionary.find?_eq_some_iff

theorem mem_keys_iff : key ∈ entry.keys ↔ ∃ payload, entry.get? key = some payload := by
  simp [keys, get?_eq_some_iff]

theorem get?_eq_none_iff : entry.get? key = none ↔ key ∉ entry.keys := by
  rw [mem_keys_iff, Option.eq_none_iff_forall_ne_some, not_exists]

theorem length_keys (entry : PackageEntry) : entry.keys.length = entry.size := List.length_map _

theorem keys_inOrder (entry : PackageEntry) : entry.keys.Pairwise (· < ·) :=
  List.pairwise_map.mpr entry.types.ordered

theorem contains_eq_false_iff {name : Text} :
    entry.contains name = false ↔ entry.get? name = none := by
  simp [contains, get?, Dictionary.contains]

/-- The name in a link is the key, or no key at all but the rest of this one. -/
theorem routeName_cases (entry : PackageEntry) (package key : Text) :
    entry.routeName package key = key ∨
      entry.routeName package key ≠ [] ∧
        qualified package (entry.routeName package key) = key ∧
        entry.get? (entry.routeName package key) = none := by
  rw [routeName]
  split
  · exact .inl rfl
  · next free =>
    rcases displayName_cases package key with same | ⟨some, rest⟩
    · exact .inl same
    · by_cases same : displayName package key = key
      · exact .inl same
      · refine .inr ⟨some, rest, contains_eq_false_iff.mp ?_⟩
        simpa [same] using free

theorem routeName_ne_nil (some : key ≠ []) : entry.routeName package key ≠ [] := by
  rcases entry.routeName_cases package key with same | ⟨nonempty, _⟩
  · rwa [same]
  · exact nonempty

/-- A lookup finds what is under the bare name, or what is under the qualified one if the bare name
is no key. -/
theorem lookup_eq_some_iff {name : Text} {payload : Json} :
    entry.lookup package name = some (key, payload) ↔
      entry.get? key = some payload ∧
        (key = name ∨ entry.get? name = none ∧ key = qualified package name) := by
  rw [lookup]
  split
  · next other bare =>
    constructor
    · intro found
      cases found
      exact ⟨bare, .inl rfl⟩
    · rintro ⟨held, rfl | ⟨free, _⟩⟩
      · rw [bare] at held
        cases held
        rfl
      · rw [bare] at free
        cases free
  · next free =>
    rw [Option.map_eq_some_iff]
    constructor
    · rintro ⟨other, held, same⟩
      cases same
      exact ⟨held, .inr ⟨free, rfl⟩⟩
    · rintro ⟨held, rfl | ⟨_, rfl⟩⟩
      · rw [free] at held
        cases held
      · exact ⟨payload, held, rfl⟩

theorem lookup_eq_none_iff {name : Text} :
    entry.lookup package name = none ↔
      entry.get? name = none ∧ entry.get? (qualified package name) = none := by
  rw [lookup]
  split <;> simp [*]

theorem displayName_qualified {name : Text} (some : name ≠ []) :
    displayName package (qualified package name) = name := by
  have after : Text.after? package (qualified package name) = Option.some ('.' :: name) :=
    Text.after?_eq_some_iff.mpr rfl
  have rest : Text.after? ['.'] ('.' :: name) = Option.some name :=
    Text.after?_eq_some_iff.mpr rfl
  rw [displayName, after, Option.bind_some, rest]
  cases name with
  | nil => exact absurd rfl some
  | cons c name => rfl

/-- A qualified key is linked under the rest of it, unless that is a key too. -/
theorem routeName_qualified {name : Text} (some : name ≠ []) (free : entry.get? name = none) :
    entry.routeName package (qualified package name) = name := by
  rw [routeName, displayName_qualified some, contains_eq_false_iff.mpr free]
  simp

/-- The name in a link finds the key that it was made for. -/
theorem lookup_routeName {payload : Json} (there : entry.get? key = some payload) :
    entry.lookup package (entry.routeName package key) = some (key, payload) := by
  rw [lookup]
  rcases entry.routeName_cases package key with same | ⟨_, rest, free⟩
  · rw [same, there]
  · rw [free, rest]
    simp only [there, Option.map_some]

/-- Two keys of a package are never linked under one name. -/
theorem eq_of_routeName_eq {other : Text} (there : key ∈ entry.keys) (also : other ∈ entry.keys)
    (same : entry.routeName package key = entry.routeName package other) : key = other := by
  obtain ⟨payload, held⟩ := mem_keys_iff.mp there
  obtain ⟨otherPayload, otherHeld⟩ := mem_keys_iff.mp also
  have found : entry.lookup package _ = _ := lookup_routeName held
  rw [same, lookup_routeName otherHeld] at found
  cases found
  rfl

/-- The names in the links of a package, in the order of its keys. -/
def linkNames (entry : PackageEntry) (package : Text) : List Text :=
  entry.keys.map (entry.routeName package)

theorem length_linkNames (entry : PackageEntry) (package : Text) :
    (entry.linkNames package).length = entry.size := by
  rw [linkNames, List.length_map, length_keys]

theorem nodup_linkNames (entry : PackageEntry) (package : Text) :
    (entry.linkNames package).Nodup := by
  apply List.pairwise_map.mpr
  apply entry.keys_inOrder.imp_of_mem
  intro key other there also before same
  rw [eq_of_routeName_eq there also same] at before
  exact List.lt_irrefl _ before

end PackageEntry

end DocBrowser
