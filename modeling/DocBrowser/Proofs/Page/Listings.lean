import DocBrowser.Proofs.Index.Search
import DocBrowser.Proofs.Page.Styling
import Mathlib.Data.List.Forall2

/-!
What listings print. The results of a search have a line each, up to a limit, with the number of all
of them and of those that are left out. The page of a package has a line for each of its types, with
a link that no other type of the package has.
-/

namespace DocBrowser

/-- A text as it is printed in a style, with colour on or off. -/
def Style.printed (style : Style) (colour : Bool) (text : Text) : Text :=
  if colour then (Piece.styled style text).coloured else text

namespace Styled

variable (colour : Bool) (style : Style) (text : Text) (pieces : Styled)

@[simp]
theorem paint_nil : paint colour [] = [] := rfl

@[simp]
theorem paint_plain : paint colour (.plain text :: pieces) = text ++ pieces.paint colour := by
  cases colour <;> rfl

@[simp]
theorem paint_styled :
    paint colour (.styled style text :: pieces) =
      style.printed colour text ++ pieces.paint colour := rfl

theorem paint_flatMap {α : Type} (list : List α) (page : α → Styled) :
    paint colour (list.flatMap page) = (list.map fun a => (page a).paint colour).flatten := by
  rw [paint, List.flatMap_assoc, List.flatMap_def]
  rfl

end Styled

namespace Page

open Styled (paint_append paint_flatMap)
open PackageEntry (displayName)

variable {index : Index} {entry : PackageEntry} {query package key : Text}

/-! The page of a package. -/

def packageHeading (colour : Bool) (rule : Nat) (package : Text) : Text :=
  "\n" ++ Style.cyan.printed colour "📦" ++ " Package " ++
    Style.boldYellow.printed colour package ++ "\n" ++
    Style.dimmed.printed colour (List.replicate rule '─') ++ "\n"

def packageClosing (colour : Bool) (count : Nat) : Text :=
  if count = 0 then "  " ++ Style.blue.printed colour "ℹ️" ++ " No types documented\n"
  else
    "\n" ++ Style.green.printed colour "✓" ++ " Total: " ++
      Style.bold.printed colour (Text.ofNat count) ++ " type(s)\n"

/-- The line of a type on the page of its package. -/
def typeLine (colour : Bool) (package name : Text) : Text :=
  "  " ++ Style.cyan.printed colour "•" ++ " " ++ Style.green.printed colour name ++ "  " ++
    Style.dimmed.printed colour ("/docs/" ++ package ++ "/" ++ name) ++ "\n"

theorem paint_typeItem (colour : Bool) (entry : PackageEntry) (package key : Text) :
    (typeItem entry package key).paint colour =
      typeLine colour package (entry.routeName package key) := by
  unfold typeItem typeLine line bullet typePath
  simp only [List.cons_append, List.nil_append, List.append_assoc, Styled.paint_plain,
    Styled.paint_styled, Styled.paint_nil]
  rfl

/-- What the page of a package prints, whether or not there are types in it. -/
theorem paint_package {view : PackageView} (found : view.entry? = some entry) (colour : Bool)
    (options : Options) :
    (Page.package view options).paint colour =
      packageHeading colour (ruleLength options) view.package ++
        ((entry.linkNames view.package).map (typeLine colour view.package)).flatten ++
        packageClosing colour entry.size := by
  have heading : Styled.paint colour (line ["\n", .styled .cyan "📦", " Package ",
      .styled .boldYellow view.package, "\n", titleRule options]) =
        packageHeading colour (ruleLength options) view.package := by
    unfold line packageHeading titleRule
    simp only [List.cons_append, List.nil_append, List.append_assoc, Styled.paint_plain,
      Styled.paint_styled, Styled.paint_nil]
    rfl
  rw [Page.package, found]
  dsimp only
  rw [paint_append, heading, List.append_assoc, List.append_cancel_left_eq]
  by_cases empty : entry.isEmpty = true
  · have nothing : entry.types.entries = [] := List.isEmpty_iff.mp empty
    simp [empty, nothing, PackageEntry.linkNames, PackageEntry.keys, PackageEntry.size,
      Dictionary.size, packageClosing, line, hintSign]
  · have some : entry.size ≠ 0 := fun none => empty (List.isEmpty_iff_length_eq_zero.mpr none)
    have items : Styled.paint colour (entry.keys.flatMap (typeItem entry view.package)) =
        ((entry.linkNames view.package).map (typeLine colour view.package)).flatten := by
      simp only [paint_flatMap, paint_typeItem, PackageEntry.linkNames, List.map_map]
      rfl
    rw [if_neg empty, paint_append, items, packageClosing, if_neg some]
    simp [line]

theorem eq_of_typePath_eq {name other : Text} (same : typePath package name = typePath package other) :
    name = other :=
  (List.cons.inj (List.append_cancel_left same)).2

/-- The link of a key finds that key in its package again, so no two keys have one link, and the page
of the package lists as many different links as it has types. -/
theorem link_names_are_faithful (entry : PackageEntry) (package : Text) :
    (∀ key payload, entry.get? key = some payload →
      entry.lookup package (entry.routeName package key) = some (key, payload)) ∧
    (∀ key ∈ entry.keys, ∀ other ∈ entry.keys,
      entry.routeName package key = entry.routeName package other → key = other) ∧
    ∀ (index : Index) (colour : Bool) (options : Options), index.package? package = some entry →
      ∃ names, names = entry.keys.map (entry.routeName package) ∧ names.length = entry.size ∧
        (names.map (typePath package)).Nodup ∧
        (Page.package ⟨some index, package⟩ options).paint colour =
          packageHeading colour (ruleLength options) package ++
            (names.map (typeLine colour package)).flatten ++ packageClosing colour entry.size := by
  refine ⟨fun key payload => PackageEntry.lookup_routeName, ?_, ?_⟩
  · exact fun key there other also => PackageEntry.eq_of_routeName_eq there also
  · intro index colour options found
    refine ⟨entry.linkNames package, rfl, entry.length_linkNames package, ?_, ?_⟩
    · apply List.pairwise_map.mpr
      apply (entry.nodup_linkNames package).imp
      exact fun different same => different (eq_of_typePath_eq same)
    · have held : PackageView.entry? ⟨some index, package⟩ = some entry := found
      exact paint_package held colour options

/-! The results of a search. -/

/-- The line of a result, with its shown name and the name in its link. -/
def resultLine (colour : Bool) (package name link : Text) : Text :=
  "  " ++ Style.cyan.printed colour "•" ++ " " ++ Style.yellow.printed colour package ++ "." ++
    Style.green.printed colour name ++ "  " ++
    Style.dimmed.printed colour ("/docs/" ++ package ++ "/" ++ link) ++ "\n"

/-- A line is that of a result if it links the key by its name in the package. -/
def IsResultLine (index : Index) (colour : Bool) (result : Text × Text) (printed : Text) : Prop :=
  ∃ entry, index.package? result.1 = some entry ∧
    printed = resultLine colour result.1 (displayName result.1 result.2)
      (entry.routeName result.1 result.2)

/-- What is printed about the results that have no line. -/
def remaining (count : Nat) : Text :=
  if 20 < count then "\n  ... and " ++ Text.ofNat (count - 20) ++ " more\n" else []

/-- A page that says how many results there are, lists the first of them and counts the rest. -/
structure ListsResults (index : Index) (query : Text) (results : List (Text × Text))
    (colour : Bool) (page : Text) : Prop where
  none : results = [] →
    page = Style.blue.printed colour "ℹ️" ++ " No results found for '" ++ query ++ "'\n"
  some : results ≠ [] → ∃ lines more,
    page = "\n" ++ Style.cyan.printed colour "🔍" ++ " Found " ++ Text.ofNat results.length ++
      " result(s):\n\n" ++ lines.flatten ++ more ∧
    lines.length = min results.length 20 ∧
    List.Forall₂ (IsResultLine index colour) (results.take 20) lines ∧
    (more ≠ [] ↔ 20 < results.length) ∧
    (20 < results.length →
      more = "\n  ... and " ++ Text.ofNat (results.length - 20) ++ " more\n")

theorem isResultLine_searchItem (found : index.package? package = some entry) (colour : Bool)
    (key : Text) :
    IsResultLine index colour (package, key) ((searchItem index (package, key)).paint colour) := by
  refine ⟨entry, found, ?_⟩
  unfold searchItem resultLine line bullet typePath
  simp only [found, Option.map_some, Option.getD_some, List.cons_append, List.nil_append,
    List.append_assoc, Styled.paint_plain, Styled.paint_styled, Styled.paint_nil]
  rfl

theorem paint_remaining (colour : Bool) (count : Nat) :
    Styled.paint colour
      (if searchLimit < count then
        line [.plain ("\n  ... and " ++ Text.ofNat (count - searchLimit) ++ " more")]
      else []) = remaining count := by
  unfold remaining searchLimit
  split
  · unfold line
    simp only [List.cons_append, List.nil_append, List.append_assoc, Styled.paint_plain,
      Styled.paint_nil]
    rfl
  · rfl

theorem listsResults_search (index : Index) (query : Text) (colour : Bool) :
    ListsResults index query (index.search query) colour
      ((Page.search index query).paint colour) where
  none none := by
    unfold Page.search line hintSign
    simp only [none, List.isEmpty_nil, if_true, List.cons_append, List.nil_append,
      List.append_assoc, Styled.paint_plain, Styled.paint_styled, Styled.paint_nil]
    rfl
  some some := by
    have listed : ∀ result ∈ (index.search query).take 20,
        IsResultLine index colour result ((searchItem index result).paint colour) := by
      rintro ⟨package, key⟩ there
      obtain ⟨entry, _, found, _⟩ := Index.mem_search_iff.mp (List.mem_of_mem_take there)
      exact isResultLine_searchItem found colour key
    have nonempty : (index.search query).isEmpty = false := List.isEmpty_eq_false_iff.mpr some
    refine ⟨((index.search query).take 20).map fun result => (searchItem index result).paint colour,
      remaining (index.search query).length, ?_, ?_, ?_, ?_, fun beyond => if_pos beyond⟩
    · unfold Page.search
      simp only [nonempty, Bool.false_eq_true, if_false, paint_append, paint_flatMap,
        paint_remaining]
      unfold line
      simp only [List.cons_append, List.nil_append, List.append_assoc, Styled.paint_plain,
        Styled.paint_styled, Styled.paint_nil]
      rfl
    · rw [List.length_map, List.length_take, Nat.min_comm]
    · rw [List.forall₂_map_right_iff, List.forall₂_same]
      exact listed
    · rw [remaining]
      split <;> simp [*]

/-- A search finds exactly the types whose lower-cased key has the lower-cased query in it, each once
and in order, and the empty query finds all of them. All results are announced, the first twenty are
printed with their links, and the rest are counted. -/
theorem searches_are_complete_and_listed (index : Index) (query : Text) :
    (index.search query).Pairwise Index.Precedes ∧ (index.search query).Nodup ∧
    (∀ package key, (package, key) ∈ index.search query ↔
      ∃ entry payload, index.package? package = some entry ∧ entry.get? key = some payload ∧
        LetterCase.lower query <:+: LetterCase.lower key) ∧
    (index.search []).length = index.typeCount ∧
    ∀ colour, ListsResults index query (index.search query) colour
      ((Page.search index query).paint colour) := by
  refine ⟨index.search_inOrder query, index.search_nodup query, ?_, index.length_search_nil, ?_⟩
  · exact fun package key => Index.mem_search_iff
  · exact listsResults_search index query

end Page

end DocBrowser
