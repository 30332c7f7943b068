import DocBrowser.Navigation
import Mathlib.Data.List.TakeWhile

/-!
Where redirects lead. A chain of redirects lands on a normal path that resolves to a view, and such
a path is its own landing.
-/

namespace DocBrowser

variable {table : Table} {path : Text} {landing : Landing}

theorem normalize_eq_self (rooted : path.head? = some '/')
    (whole : ∀ c ∈ path, endsPath c = false) :
    normalize path = path := by
  have kept : path.takeWhile (!endsPath ·) = path := by
    rw [List.takeWhile_eq_self_iff]
    intro c member
    simp [whole c member]
  simp [normalize, kept, rooted]

theorem head?_normalize : (normalize path).head? = some '/' := by
  rw [normalize]
  split
  · assumption
  · rfl

theorem endsPath_of_mem_normalize {c : Char} (member : c ∈ normalize path) :
    endsPath c = false := by
  rw [normalize] at member
  split at member
  · simpa using List.mem_takeWhile_imp member
  · rcases List.mem_cons.mp member with rfl | kept
    · rfl
    · simpa using List.mem_takeWhile_imp kept

theorem eq_slash_or_mem_of_mem_normalize {c : Char} (member : c ∈ normalize path) :
    c = '/' ∨ c ∈ path := by
  have kept := (List.takeWhile_sublist (l := path) (!endsPath ·)).subset
  rw [normalize] at member
  split at member
  · exact .inr (kept member)
  · exact (List.mem_cons.mp member).imp_right (@kept c)

@[simp]
theorem normalize_normalize : normalize (normalize path) = normalize path :=
  normalize_eq_self head?_normalize fun _ member => endsPath_of_mem_normalize member

/-- The landing is on a normal path that resolves to its view. -/
structure Table.LandsOn (table : Table) (landing : Landing) : Prop where
  normal : normalize landing.path = landing.path
  resolves : table.resolve landing.path =
    some (.view landing.kind landing.requires landing.params)

namespace Table

theorem landsOn_of_follow {left : Nat} {redirects : List Text} (normal : normalize path = path)
    (lands : table.follow left path redirects = .lands landing) : table.LandsOn landing := by
  fun_induction table.follow left path redirects with
  | case1 left path redirects kind requires params resolves =>
    cases lands
    exact ⟨normal, resolves⟩
  | case2 => cases lands
  | case3 path redirects target resolves left ih => exact ih normalize_normalize lands
  | case4 => cases lands

theorem landsOn_of_chain (lands : table.chain path = .lands landing) : table.LandsOn landing :=
  landsOn_of_follow normalize_normalize lands

/-- A landing is reached from its own path without a redirect. -/
theorem LandsOn.chain_eq (landsOn : table.LandsOn landing) :
    table.chain landing.path = .lands { landing with redirects := [] } := by
  rw [chain, maxRedirects, landsOn.normal, follow, landsOn.resolves]

end Table

end DocBrowser
