import DocBrowser.Proofs.Navigation.Redirects
import DocBrowser.Proofs.Route.Standard

/-!
How many bytes a path has. Decoding a segment changes nothing or saves two bytes at least, while a
redirect to the other choice of trailing slash adds one byte at most. So every redirect on the way
to the page of a type makes the path shorter.
-/

namespace DocBrowser

open Utf8 (byteCount)
open Percent (decode)

variable {path target last : Text} {left : List Text}

theorem byteCount_normalize_le (rooted : path.head? = some '/') :
    byteCount (normalize path) ≤ byteCount path := by
  have cut := congrArg byteCount (List.takeWhile_append_dropWhile (p := (!endsPath ·)) (l := path))
  rw [Utf8.byteCount_append] at cut
  cases path with
  | nil => cases rooted
  | cons c rest =>
    obtain rfl : c = '/' := by simpa using rooted
    have front : (('/' :: rest).takeWhile (!endsPath ·)).head? = some '/' := by
      rw [List.takeWhile_cons_of_pos (by decide)]
      rfl
    rw [normalize, if_pos front]
    omega

/-- A slash is one byte. -/
theorem byteCount_ofSegments_cons_cons (part next : Text) (rest : List Text) :
    byteCount (ofSegments (part :: next :: rest)) =
      byteCount part + (1 + byteCount (ofSegments (next :: rest))) := by
  rw [ofSegments_cons_cons, Utf8.byteCount_append, Utf8.byteCount_cons]
  rfl

theorem byteCount_docs (part : Text) (rest : List Text) :
    byteCount (ofSegments ([] :: "docs" :: part :: rest)) =
      6 + byteCount (ofSegments (part :: rest)) := by
  have docs : byteCount "docs" = 4 := by rfl
  rw [byteCount_ofSegments_cons_cons, byteCount_ofSegments_cons_cons, docs, Utf8.byteCount_nil]
  omega

theorem byteCount_type (package type : Text) :
    byteCount (ofSegments [[], "docs", package, type]) =
      7 + byteCount package + byteCount type := by
  rw [byteCount_docs, byteCount_ofSegments_cons_cons, ofSegments_singleton]
  omega

namespace Table

/-- A redirect leads at once to a page of no type, or to a shorter path. -/
theorem view_or_byteCount_lt (resolves : browser.resolve path = some (.redirect target)) :
    (∃ kind requires params, kind ≠ .type ∧
      browser.resolve target = some (.view kind requires params)) ∨
      byteCount (normalize target) < byteCount (normalize path) := by
  have joined := ofSegments_segments (normalize path)
  have undivided := fun part => @undivided_of_mem_segments path part
  rw [resolve_browser, Option.some.injEq] at resolves
  rcases eq_of_decision resolves with rfl | ⟨rest, parts, redirected⟩
  · exact .inl ⟨.front, none, [], by decide, by rfl⟩
  rw [parts] at joined undivided
  rw [← joined]
  rcases eq_of_documented redirected with
    rfl | ⟨package, some, rfl, rfl⟩ | ⟨package, type, somePackage, someType, rfl, rfl⟩
  · exact .inl ⟨.front, none, [], by decide, by rfl⟩
  · have whole := undivided package (by simp)
    have shorter : byteCount (normalize (ofSegments [[], "docs", decode package, []])) ≤
        byteCount (ofSegments [[], "docs", decode package, []]) := byteCount_normalize_le (by simp)
    rcases Percent.decode_eq_or_byteCount_add_le package with same | saved
    · rw [same]
      exact .inl ⟨_, _, _, by decide, resolve_package some whole⟩
    · right
      rw [byteCount_docs, byteCount_ofSegments_cons_cons, ofSegments_singleton,
        Utf8.byteCount_nil] at shorter
      rw [byteCount_docs, ofSegments_singleton]
      omega
  · right
    have shorter : byteCount (normalize (ofSegments [[], "docs", decode package, decode type])) ≤
        byteCount (ofSegments [[], "docs", decode package, decode type]) :=
      byteCount_normalize_le (by simp)
    have packageLe := Percent.byteCount_decode_le package
    have typeLe := Percent.byteCount_decode_le type
    rw [byteCount_type] at shorter
    rw [byteCount_docs, byteCount_ofSegments_cons_cons, byteCount_ofSegments_cons_cons,
      ofSegments_singleton, Utf8.byteCount_nil]
    omega

/-- On the way to the page of a type, each redirect costs a byte. -/
theorem Leads.byteCount_add_length_le {requires : Option Prerequisite} {params : Params}
    (leads : browser.Leads path left last) (normal : normalize path = path)
    (type : browser.resolve last = some (.view .type requires params)) :
    byteCount last + left.length ≤ byteCount path := by
  induction leads with
  | here path => exact Nat.le_refl _
  | @redirect path target last left resolves rest ih =>
    have later := ih normalize_normalize type
    rcases view_or_byteCount_lt resolves with ⟨kind, _, _, other, shown⟩ | shorter
    · rw [← resolve_normalize] at shown
      cases rest with
      | here =>
        rw [type] at shown
        cases shown
        exact absurd rfl other
      | redirect again =>
        rw [again] at shown
        cases shown
    · rw [normal] at shorter
      simp only [List.length_cons]
      omega

end Table

end DocBrowser
