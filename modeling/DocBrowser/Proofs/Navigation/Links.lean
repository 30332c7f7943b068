import DocBrowser.Proofs.Index.RoundTrip
import DocBrowser.Proofs.Navigation.Outcome
import DocBrowser.Proofs.Route.Standard
import DocBrowser.Proofs.View

/-!
Links with escapes. Whatever the names of a package and of a type in it are made of, the link that
escapes what divides a path leads to their page, and to no other on the way.
-/

namespace DocBrowser

variable {table : Table} {loader : Loader} {shared : SharedIndex}

/-- A path of a page that needs the index shows it at once. -/
theorem navigate_of_resolve {path : Text} {kind : ViewKind} {params : Params}
    (resolves : table.resolve path = some (.view kind (some .packages) params))
    (consistent : loader.Consistent) (there : loader.prospect = .ok shared) :
    (navigate table loader path).1 =
      .done (.ok ⟨normalize path, [], params, .ofRoute kind (some shared.index) params⟩) := by
  have lands := (Table.Reaches.of_view resolves).chain_of_le (Nat.zero_le _)
  rw [fst_navigate consistent ⟨lands, rfl⟩, there]
  rfl

/-- A link to a package leads to its page, and one to a type to the page of the type, at once. -/
theorem written_links_lead_to_their_pages :
    ∃ table, Table.standard = .ok table ∧
      ∀ (loader : Loader) (shared : SharedIndex) (package written : Text) (entry : PackageEntry),
        loader.Consistent → loader.prospect = .ok shared →
        package ≠ [] → shared.index.package? package = some entry →
        Percent.Writes package written →
        (∃ nav view, (navigate table loader ("/docs/" ++ written ++ "/")).1 = .done (.ok nav) ∧
          nav.redirects = [] ∧ nav.view = .package view ∧ view.package = package ∧
          view.entry? = some entry) ∧
        ∀ (key name : Text) (payload : Json),
          key ≠ [] → entry.get? key = some payload →
          Percent.Writes (entry.routeName package key) name →
          ∃ nav view,
            (navigate table loader ("/docs/" ++ written ++ "/" ++ name)).1 = .done (.ok nav) ∧
            nav.redirects = [] ∧ nav.view = .type view ∧ view.package = package ∧
            view.name = entry.routeName package key ∧ view.key = some key ∧
            view.payload? = some payload := by
  refine ⟨.browser, Table.standard_eq, ?_⟩
  intro loader shared package written entry consistent there some found writes
  constructor
  · have shown := Table.resolve_package (writes.ne_nil some) writes.not_mem
    rw [writes.decode_eq] at shown
    have path : ofSegments [[], "docs", written, []] = "/docs/" ++ written ++ "/" := by simp
    rw [path] at shown
    exact ⟨_, _, navigate_of_resolve shown consistent there, rfl, rfl, rfl, found⟩
  · intro key name payload someKey held writesName
    have someName := writesName.ne_nil (PackageEntry.routeName_ne_nil someKey)
    have shown :=
      Table.resolve_type (writes.ne_nil some) someName writes.not_mem writesName.not_mem
    rw [writes.decode_eq, writesName.decode_eq] at shown
    have path : ofSegments [[], "docs", written, name] = "/docs/" ++ written ++ "/" ++ name := by
      simp
    rw [path] at shown
    have resolved : entry.lookup package (entry.routeName package key) = _ :=
      PackageEntry.lookup_routeName held
    have view := TypeView.ofParams_eq found resolved
    refine ⟨_, _, navigate_of_resolve shown consistent there, rfl, congrArg View.type view, rfl, rfl,
      rfl, ?_⟩
    simp [TypeView.payload?, TypeView.entry?, found, held]

/-- A package with a slash in its name, and a type in it under its qualified name. -/
def Index.slashed : Index := .ofList [("a/b", .ofList [("a/b.C", .null)])]

def Source.slashed : Source :=
  .constant "index" (.ok (Utf8.encode "\x7b\"a/b\":\x7b\"a/b.C\":null\x7d\x7d"))

/-- The slash is escaped, and the type is linked by its bare name. -/
theorem slashed_links_lead_to_their_pages :
    (Loader.new .slashed).Consistent ∧ (Loader.new .slashed).prospect = .ok ⟨0, .slashed⟩ ∧
      ∃ table, Table.standard = .ok table ∧
        ∃ nav view, (navigate table (.new .slashed) "/docs/a%2fb/%43").1 = .done (.ok nav) ∧
          nav.redirects = [] ∧ nav.view = .type view ∧ view.key = some ("a/b.C" : Text) := by
  have consistent := Loader.consistent_new .slashed
  have packages : ∃ packages, Index.collected packages = .slashed ∧
      (Index.document packages).Integral ∧ (Index.document packages).depth ≤ 127 ∧
      (Source.slashed.respond 0).outcome =
        .ok (Utf8.encode ((Index.document packages).laidOut .dense 0)) := by
    refine ⟨[("a/b", [("a/b.C", .null)])], rfl, ?_, by decide, rfl⟩
    intro n there
    simp [Index.document, Json.parts, Json.partsOfMembers] at there
  have decoded : (Source.slashed.respond 0).outcome.bind Index.ofBytes = .ok .slashed := by
    obtain ⟨packages, same, whole, shallow, outcome⟩ := packages
    rw [outcome, ← same]
    exact Index.ofBytes_laidOut .dense whole shallow
  have there : (Loader.new .slashed).prospect = .ok ⟨0, .slashed⟩ := by
    rw [Loader.prospect_new, Source.result_eq_ok decoded]
  have slash : Percent.Escapes (Utf8.encodeChar '/') "%2f" :=
    .cons (h := 2) (l := 15) rfl rfl rfl .nil
  have letter : Percent.Escapes (Utf8.encodeChar 'C') "%43" :=
    .cons (h := 4) (l := 3) rfl rfl rfl .nil
  have last : Percent.Writes "b" "b" := .kept (by decide) .nil
  have package : Percent.Writes "a/b" "a%2fb" :=
    Percent.Writes.kept (c := 'a') (by decide) (Percent.Writes.escaped slash last)
  have name : Percent.Writes "C" "%43" := Percent.Writes.escaped letter .nil
  obtain ⟨table, standard, links⟩ := written_links_lead_to_their_pages
  obtain ⟨_, types⟩ := links (.new .slashed) ⟨0, .slashed⟩ "a/b" "a%2fb"
    (.ofList [("a/b.C", .null)]) consistent there (by decide) (by rfl) package
  obtain ⟨nav, view, shown, direct, page, _, _, key, _⟩ :=
    types "a/b.C" "%43" .null (by decide) (by rfl) name
  exact ⟨consistent, there, table, standard, nav, view, shown, direct, page, key⟩

end DocBrowser
