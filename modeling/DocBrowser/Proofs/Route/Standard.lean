import DocBrowser.Proofs.Navigation.Chain
import DocBrowser.Proofs.Route.Matching

/-!
The routes of the browser decide a path by its segments alone.
-/

namespace DocBrowser

/-- The segments of the part of a path that routes look at have no divider in them. -/
theorem undivided_of_mem_segments {path part : Text} (there : part ∈ segments (normalize path)) :
    ∀ c ∈ part, c ∉ Percent.dividers := by
  intro c inside divider
  have unended := endsPath_of_mem_normalize (mem_of_mem_segments there inside)
  have unslashed := not_mem_of_mem_segments there
  simp only [Percent.dividers, List.mem_cons, List.not_mem_nil, or_false] at divider
  rcases divider with rfl | rfl | rfl
  · exact unslashed inside
  · cases unended
  · cases unended

namespace Table

open Percent (decode)

/-- The routes of the browser, written out. -/
def browser : Table where
  routes :=
    [⟨.ofText "/", .view .front none⟩,
      ⟨.ofText "/docs/:package/:type", .view .type (some .packages)⟩,
      ⟨.ofText "/docs/:package/:type/", .redirect "/docs/:package/:type"⟩,
      ⟨.ofText "/docs/:package/", .view .package (some .packages)⟩,
      ⟨.ofText "/docs/:package", .redirect "/docs/:package/"⟩]
  otherwise := some "/"

theorem standard_eq : standard = .ok browser := by rfl

/-- What the routes of the browser make of the segments after `/docs/`. -/
def documented : List Text → Resolution
  | [package] =>
    if package = [] then .redirect "/"
    else .redirect (ofSegments [[], "docs", decode package, []])
  | [package, type] =>
    if package = [] then .redirect "/"
    else if type = [] then .view .package (some .packages) [("package", decode package)]
    else .view .type (some .packages) [("package", decode package), ("type", decode type)]
  | [package, type, []] =>
    if package = [] ∨ type = [] then .redirect "/"
    else .redirect (ofSegments [[], "docs", decode package, decode type])
  | _ => .redirect "/"

/-- What they make of the segments of a path. -/
def decision : List Text → Resolution
  | [[], []] => .view .front none []
  | [] :: root :: rest => if root = "docs" then documented rest else .redirect "/"
  | _ => .redirect "/"

theorem eq_of_documented {rest : List Text} {target : Text}
    (redirected : documented rest = .redirect target) :
    target = "/" ∨
      (∃ package, package ≠ [] ∧ rest = [package] ∧
        target = ofSegments [[], "docs", decode package, []]) ∨
      ∃ package type, package ≠ [] ∧ type ≠ [] ∧ rest = [package, type, []] ∧
        target = ofSegments [[], "docs", decode package, decode type] := by
  unfold documented at redirected
  split at redirected
  · next package =>
    split at redirected
    · exact .inl (Resolution.redirect.inj redirected).symm
    · next some =>
      exact .inr (.inl ⟨package, some, rfl, (Resolution.redirect.inj redirected).symm⟩)
  · split at redirected
    · exact .inl (Resolution.redirect.inj redirected).symm
    · split at redirected <;> cases redirected
  · next package type =>
    split at redirected
    · exact .inl (Resolution.redirect.inj redirected).symm
    · next some =>
      obtain ⟨somePackage, someType⟩ := not_or.mp some
      exact .inr (.inr ⟨package, type, somePackage, someType, rfl,
        (Resolution.redirect.inj redirected).symm⟩)
  · exact .inl (Resolution.redirect.inj redirected).symm

theorem decision_docs (rest : List Text) : decision ([] :: "docs" :: rest) = documented rest := rfl

theorem eq_of_decision {parts : List Text} {target : Text}
    (redirected : decision parts = .redirect target) :
    target = "/" ∨ ∃ rest, parts = [] :: "docs" :: rest ∧ documented rest = .redirect target := by
  unfold decision at redirected
  split at redirected
  · cases redirected
  · next root rest _ =>
    split at redirected
    · next docs => exact .inr ⟨rest, by rw [docs], redirected⟩
    · exact .inl (Resolution.redirect.inj redirected).symm
  · exact .inl (Resolution.redirect.inj redirected).symm

/-- The page of a type is decided by two segments after `/docs/`. -/
theorem eq_of_decision_type {parts : List Text} {requires : Option Prerequisite} {params : Params}
    (shown : decision parts = .view .type requires params) :
    ∃ package type, parts = [[], "docs", package, type] ∧ package ≠ [] ∧ type ≠ [] ∧
      params = ([("package", decode package), ("type", decode type)] : Params) := by
  unfold decision at shown
  split at shown
  · cases shown
  · split at shown
    · next docs =>
      unfold documented at shown
      split at shown
      · split at shown <;> cases shown
      · next package type _ =>
        split at shown
        · cases shown
        · next some =>
          split at shown
          · cases shown
          · next someType =>
            cases shown
            exact ⟨package, type, by rw [docs], some, someType, rfl⟩
      · split at shown <;> cases shown
      · cases shown
    · cases shown
  · cases shown

theorem matchSegments_of_ne {root : Text} (elsewhere : root ≠ "docs") (pattern : List Segment)
    (rest : List Text) :
    Pattern.matchSegments (.literal [] :: .literal "docs" :: pattern) ([] :: root :: rest) =
      none := by
  rw [Pattern.matchSegments, if_pos rfl, Pattern.matchSegments, if_neg elsewhere.symm]

theorem resolve_browser (path : Text) :
    browser.resolve path = some (decision (segments (normalize path))) := by
  have front : Pattern.segments "/" = [.literal [], .literal []] := by rfl
  have type : Pattern.segments "/docs/:package/:type" =
      [.literal [], .literal "docs", .param "package", .param "type"] := by rfl
  have typeSlash : Pattern.segments "/docs/:package/:type/" =
      [.literal [], .literal "docs", .param "package", .param "type", .literal []] := by rfl
  have package : Pattern.segments "/docs/:package/" =
      [.literal [], .literal "docs", .param "package", .literal []] := by rfl
  have packageBare : Pattern.segments "/docs/:package" =
      [.literal [], .literal "docs", .param "package"] := by rfl
  simp only [resolve, browser, firstMatch?, Pattern.matches?_ofText, front, type, typeSlash,
    package, packageBare]
  generalize segments (normalize path) = parts
  rcases parts with _ | ⟨_ | ⟨c, first⟩, _ | ⟨root, rest⟩⟩
  · rfl
  · rfl
  · by_cases docs : root = "docs"
    · subst docs
      rcases rest with _ | ⟨package, _ | ⟨type, _ | ⟨last, more⟩⟩⟩
      · rfl
      · cases package <;> rfl
      · cases package <;> cases type <;> rfl
      · cases package <;> cases type <;> cases last <;> cases more <;> rfl
    · simp only [matchSegments_of_ne docs]
      rcases root with _ | ⟨c, root⟩
      · cases rest <;> rfl
      · exact congrArg some (if_neg docs).symm
  · rfl
  · rfl

/-! Paths that are joined from segments. -/

section Whole

variable {second : Text} {rest : List Text}

theorem normalize_ofSegments
    (whole : ∀ part ∈ [] :: second :: rest, ∀ c ∈ part, c ∉ Percent.dividers) :
    normalize (ofSegments ([] :: second :: rest)) = ofSegments ([] :: second :: rest) := by
  apply normalize_eq_self
  · simp
  · intro c member
    rcases mem_ofSegments member with rfl | ⟨part, there, inside⟩
    · rfl
    · have undivided := whole part there c inside
      simp_all [Percent.dividers, endsPath]

/-- A path that is joined from segments without dividers is decided by them. -/
theorem resolve_ofSegments
    (whole : ∀ part ∈ [] :: second :: rest, ∀ c ∈ part, c ∉ Percent.dividers) :
    browser.resolve (ofSegments ([] :: second :: rest)) =
      some (decision ([] :: second :: rest)) := by
  rw [resolve_browser, normalize_ofSegments whole, segments_ofSegments _ (List.cons_ne_nil _ _)]
  intro part there slash
  exact whole part there '/' slash (by decide)

theorem resolve_package {package : Text} (some : package ≠ [])
    (whole : ∀ c ∈ package, c ∉ Percent.dividers) :
    browser.resolve (ofSegments [[], "docs", package, []]) =
      Option.some (.view .package (Option.some .packages) [("package", decode package)]) := by
  rw [resolve_ofSegments (by simpa using ⟨by decide, whole⟩), decision_docs, documented,
    if_neg some, if_pos rfl]

theorem resolve_type {package type : Text} (somePackage : package ≠ []) (someType : type ≠ [])
    (wholePackage : ∀ c ∈ package, c ∉ Percent.dividers)
    (wholeType : ∀ c ∈ type, c ∉ Percent.dividers) :
    browser.resolve (ofSegments [[], "docs", package, type]) =
      some (.view .type (some .packages)
        [("package", decode package), ("type", decode type)]) := by
  rw [resolve_ofSegments (by simpa using ⟨by decide, wholePackage, wholeType⟩), decision_docs,
    documented, if_neg somePackage, if_neg someType]

theorem resolve_type_slash {package type : Text} (somePackage : package ≠ []) (someType : type ≠ [])
    (wholePackage : ∀ c ∈ package, c ∉ Percent.dividers)
    (wholeType : ∀ c ∈ type, c ∉ Percent.dividers) :
    browser.resolve (ofSegments [[], "docs", package, type, []]) =
      some (.redirect (ofSegments [[], "docs", decode package, decode type])) := by
  rw [resolve_ofSegments (by simpa using ⟨by decide, wholePackage, wholeType⟩), decision_docs,
    documented, if_neg (not_or.mpr ⟨somePackage, someType⟩)]

end Whole

end Table

end DocBrowser
