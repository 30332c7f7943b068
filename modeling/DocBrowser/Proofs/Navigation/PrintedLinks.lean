import DocBrowser.Page.Render
import DocBrowser.Proofs.Dictionary
import DocBrowser.Proofs.Navigation.Links
import DocBrowser.Proofs.Navigation.Shortening

/-!
Links as pages print them, with the names as they are. Such a link works exactly if nothing in the
names divides a path or would be decoded. A link that is taken apart or decoded on the way leads to
a path with fewer bytes, and no name with fewer bytes finds the same key.
-/

namespace DocBrowser

open Utf8 (byteCount)
open Percent (decode dividers)

/-- A name that is a segment of a path as it is. -/
structure Percent.Plain (name : Text) : Prop where
  some : name ≠ []
  whole : ∀ c ∈ name, c ∉ dividers
  decode_eq : decode name = name

variable {loader : Loader} {shared : SharedIndex} {landing : Landing} {path package key name : Text}
  {entry : PackageEntry} {index : Index} {payload : Json}

theorem Utf8.byteCount_qualified (package name : Text) :
    byteCount (qualified package name) = byteCount package + (1 + byteCount name) := by
  rw [qualified, byteCount_append, byteCount_cons]
  rfl

/-- Of the names that find a key, none has fewer bytes than the name in its link. -/
theorem PackageEntry.routeName_eq_or_byteCount_lt (nonempty : name ≠ [])
    (found : entry.lookup package name = some (key, payload)) :
    entry.routeName package key = name ∨
      byteCount (entry.routeName package key) < byteCount name := by
  rcases (lookup_eq_some_iff.mp found).2 with rfl | ⟨free, rfl⟩
  · rcases entry.routeName_cases package key with same | ⟨_, rest, _⟩
    · exact .inl same
    · right
      have longer := Utf8.byteCount_qualified package (entry.routeName package key)
      rw [rest] at longer
      omega
  · exact .inl (routeName_qualified nonempty free)

namespace Table

/-- A page of a type stands at the path of two segments that its parameters were decoded from. -/
theorem LandsOn.exists_of_type (landsOn : browser.LandsOn landing) (type : landing.kind = .type) :
    ∃ package name, package ≠ [] ∧ name ≠ [] ∧ (∀ c ∈ package, c ∉ dividers) ∧
      (∀ c ∈ name, c ∉ dividers) ∧ landing.path = ofSegments [[], "docs", package, name] ∧
      landing.params = ([("package", decode package), ("type", decode name)] : Params) := by
  obtain ⟨normal, resolves⟩ := landsOn
  have joined := ofSegments_segments landing.path
  have undivided := fun part => @undivided_of_mem_segments landing.path part
  rw [resolve_browser, type, normal, Option.some.injEq] at resolves
  rw [normal] at undivided
  obtain ⟨package, name, parts, some, someName, params⟩ := eq_of_decision_type resolves
  rw [parts] at joined undivided
  exact ⟨package, name, some, someName, undivided package (by simp), undivided name (by simp),
    joined.symm, params⟩

end Table

theorem typePath_eq (package name : Text) :
    Page.typePath package name = ofSegments [[], "docs", package, name] := by
  change "/docs/" ++ package ++ '/' :: name = _
  simp

/-- Counting bytes from a link to the page of a type leaves none for a redirect, a cut or an escape,
unless the page is of a name with fewer bytes. -/
theorem decode_eq_of_leads {requires : Option Prerequisite} {params : Params} {written other : Text}
    {left : List Text}
    (leads : Table.browser.Leads (normalize (Page.typePath (decode written) name)) left
      (ofSegments [[], "docs", written, other]))
    (type : Table.browser.resolve (ofSegments [[], "docs", written, other]) =
      some (.view .type requires params))
    (least : name = decode other ∨ byteCount name < byteCount (decode other)) :
    decode written = written ∧ decode other = other ∧ name = other := by
  rw [typePath_eq] at leads
  have landed := leads.byteCount_add_length_le normalize_normalize type
  have kept : byteCount (normalize (ofSegments [[], "docs", decode written, name])) ≤
      byteCount (ofSegments [[], "docs", decode written, name]) := byteCount_normalize_le (by simp)
  rw [byteCount_type] at landed
  rw [byteCount_type (decode written)] at kept
  have most : byteCount name ≤ byteCount (decode other) := by
    rcases least with same | fewer
    · rw [same]
    · exact Nat.le_of_lt fewer
  have fewerPackage := Percent.byteCount_decode_le written
  have fewerName := Percent.byteCount_decode_le other
  have samePackage : decode written = written := Percent.decode_eq_of_byteCount_le (by omega)
  have sameName : decode other = other := Percent.decode_eq_of_byteCount_le (by omega)
  rcases least with same | fewer
  · exact ⟨samePackage, sameName, same.trans sameName⟩
  · omega

/-- A link that leads to a key is made of plain names. -/
theorem plain_of_lands (found : index.package? package = some entry)
    (lands : Table.browser.chain (Page.typePath package (entry.routeName package key)) =
      .lands landing)
    {view : TypeView} (page : (landing.navigation (some index)).view = .type view)
    (samePackage : view.package = package) (sameKey : view.key = some key) :
    Percent.Plain package ∧ Percent.Plain (entry.routeName package key) := by
  obtain ⟨leads, landsOn⟩ := Table.Reaches.of_chain lands
  obtain ⟨type, rfl⟩ := View.eq_of_ofRoute_type page
  obtain ⟨written, other, nonempty, someName, whole, wholeName, stands, params⟩ :=
    landsOn.exists_of_type type
  have resolves := landsOn.resolves
  rw [type, stands] at resolves
  rw [stands] at leads
  rw [params] at samePackage sameKey
  obtain rfl : decode written = package := samePackage
  obtain ⟨payload, looked⟩ := TypeView.exists_lookup sameKey found
  have least := PackageEntry.routeName_eq_or_byteCount_lt (Percent.decode_ne_nil someName) looked
  obtain ⟨plain, plainName, same⟩ := decode_eq_of_leads leads resolves least
  rw [same, plain]
  exact ⟨⟨nonempty, whole, plain⟩, ⟨someName, wholeName, plainName⟩⟩

/-- A link that is made of plain names leads to its key. -/
theorem exists_lands_of_plain (plain : Percent.Plain package)
    (plainName : Percent.Plain (entry.routeName package key))
    (found : index.package? package = some entry) (held : entry.get? key = some payload) :
    ∃ landing view,
      Table.browser.chain (Page.typePath package (entry.routeName package key)) = .lands landing ∧
        (landing.navigation (some index)).view = .type view ∧ view.package = package ∧
        view.key = some key := by
  have shown := Table.resolve_type plain.some plainName.some plain.whole plainName.whole
  rw [plain.decode_eq, plainName.decode_eq, ← typePath_eq] at shown
  have lands := (Table.Reaches.of_view shown).chain_of_le (Nat.zero_le _)
  have view := TypeView.ofParams_eq found (PackageEntry.lookup_routeName held)
  exact ⟨_, _, lands, congrArg View.type view, rfl, rfl⟩

/-! Where pages print links. -/

/-- The page of a package lists a link for each key. -/
theorem Page.mem_package (found : index.package? package = some entry)
    (held : entry.get? key = some payload) (options : Options) :
    .styled .dimmed (typePath package (entry.routeName package key)) ∈
      Page.package ⟨some index, package⟩ options := by
  have there := PackageEntry.mem_keys_iff.mpr ⟨payload, held⟩
  have nonempty : entry.isEmpty = false := by
    cases empty : entry.isEmpty with
    | false => rfl
    | true =>
      have nothing : entry.types.entries = [] := List.isEmpty_iff.mp empty
      simp [PackageEntry.keys, nothing] at there
  have view : PackageView.entry? ⟨some index, package⟩ = some entry := found
  rw [Page.package, view]
  simp only [nonempty, Bool.false_eq_true, if_false]
  apply List.mem_append_right
  apply List.mem_append_left
  apply List.mem_flatMap.mpr
  exact ⟨key, there, by simp [typeItem, line]⟩

/-- The results of a search that are printed are printed with a link. -/
theorem Page.mem_search {query : Text} (found : index.package? package = some entry)
    (result : (package, key) ∈ (index.search query).take searchLimit) :
    .styled .dimmed (typePath package (entry.routeName package key)) ∈
      Page.search index query := by
  have nonempty : (index.search query).isEmpty = false := by
    cases results : index.search query with
    | nil => simp [results] at result
    | cons => rfl
  rw [Page.search]
  simp only [nonempty, Bool.false_eq_true, if_false]
  apply List.mem_append_left
  apply List.mem_append_right
  apply List.mem_flatMap.mpr
  exact ⟨_, result, by simp [searchItem, line, found]⟩

/-- The link to a type that the page of its package and the results of a search print leads to that
type exactly if the names in it are plain. -/
theorem printed_links_work_iff_plain :
    ∃ table, Table.standard = .ok table ∧
      ∀ (loader : Loader) (shared : SharedIndex) (package key : Text) (entry : PackageEntry)
          (payload : Json),
        loader.state = .resolved shared → shared.index.package? package = some entry →
        entry.get? key = some payload →
        ∃ name link, name = entry.routeName package key ∧
          link = "/docs/" ++ package ++ "/" ++ name ∧
          (∀ options, .styled .dimmed link ∈ Page.package ⟨some shared.index, package⟩ options) ∧
          (∀ query, (package, key) ∈ (shared.index.search query).take Page.searchLimit →
            .styled .dimmed link ∈ Page.search shared.index query) ∧
          ((∃ nav view, (navigate table loader link).1 = .done (.ok nav) ∧
              nav.view = .type view ∧ view.package = package ∧ view.key = some key) ↔
            Percent.Plain package ∧ Percent.Plain name) := by
  refine ⟨.browser, Table.standard_eq, ?_⟩
  intro loader shared package key entry payload resolved found held
  have link : Page.typePath package (entry.routeName package key) =
      "/docs/" ++ package ++ "/" ++ entry.routeName package key := by
    rw [typePath_eq]
    simp
  refine ⟨_, _, rfl, rfl, ?_⟩
  rw [← link]
  refine ⟨Page.mem_package found held, fun query => Page.mem_search found, ?_⟩
  constructor
  · rintro ⟨nav, view, shown, page, samePackage, sameKey⟩
    obtain ⟨landing, lands, rfl⟩ := (fst_navigate_eq_ok_iff resolved).mp shown
    exact plain_of_lands found lands page samePackage sameKey
  · rintro ⟨plain, plainName⟩
    obtain ⟨landing, view, lands, page, samePackage, sameKey⟩ :=
      exists_lands_of_plain plain plainName found held
    exact ⟨_, view, fst_navigate_of_resolved lands resolved, page, samePackage, sameKey⟩

/-- A package of two types that are both linked by their bare names, one of which reads like an
escape. -/
def Index.escaped : Index := .ofList [("a", .ofList [("a.B", .null), ("a.%41", .bool true)])]

/-- The one link leads to its type, the other does not. -/
theorem escaped_link_fails :
    let loader : Loader := { Loader.new .slashed with state := .resolved ⟨0, .escaped⟩ }
    let entry : PackageEntry := .ofList [("a.B", .null), ("a.%41", .bool true)]
    loader.state = .resolved ⟨0, .escaped⟩ ∧ Index.escaped.package? "a" = some entry ∧
      entry.get? "a.B" = some .null ∧ entry.get? "a.%41" = some (.bool true) ∧
      ∃ table, Table.standard = .ok table ∧
        (∃ nav view, (navigate table loader "/docs/a/B").1 = .done (.ok nav) ∧
          nav.view = .type view ∧ view.package = ("a" : Text) ∧ view.key = some ("a.B" : Text)) ∧
        ¬ ∃ nav view, (navigate table loader "/docs/a/%41").1 = .done (.ok nav) ∧
          nav.view = .type view ∧ view.package = ("a" : Text) ∧
          view.key = some ("a.%41" : Text) := by
  intro loader entry
  have plain : ∀ name : Text, name = "a" ∨ name = "B" → Percent.Plain name := by
    rintro _ (rfl | rfl)
    · exact ⟨by decide, by simp [dividers], by rfl⟩
    · exact ⟨by decide, by simp [dividers], by rfl⟩
  have found : Index.escaped.package? "a" = some entry := by rfl
  have bare : entry.get? "a.B" = some .null := by rfl
  have escaped : entry.get? "a.%41" = some (.bool true) := by rfl
  obtain ⟨table, standard, works⟩ := printed_links_work_iff_plain
  obtain ⟨_, _, rfl, rfl, _, _, leads⟩ :=
    works loader ⟨0, .escaped⟩ "a" "a.B" entry .null rfl found bare
  obtain ⟨_, _, rfl, rfl, _, _, fails⟩ :=
    works loader ⟨0, .escaped⟩ "a" "a.%41" entry (.bool true) rfl found escaped
  refine ⟨rfl, found, bare, escaped, table, standard, ?_, ?_⟩
  · exact leads.mpr ⟨plain "a" (.inl rfl), plain "B" (.inr rfl)⟩
  · intro shown
    have decoded := (fails.mp shown).2.decode_eq
    revert decoded
    decide

end DocBrowser
