import DocBrowser.Index.Search
import DocBrowser.Proofs.Index.Names
import DocBrowser.Proofs.Text.LetterCase

/-!
What a search finds: all types whose lower-cased key has the lower-cased query in it, each once and
in order. A type is found by a part of its key unless the part has a capital sigma that ends a word
in the part or in the key, but not in both.
-/

namespace DocBrowser

open LetterCase

variable {index : Index} {query package key : Text}

namespace Index

/-- Results stand in the order of their packages, and in a package in the order of their keys. -/
def Precedes (result later : Text × Text) : Prop :=
  result.1 < later.1 ∨ result.1 = later.1 ∧ result.2 < later.2

theorem Precedes.ne {result later : Text × Text} (precedes : Precedes result later) :
    result ≠ later := by
  rintro rfl
  rcases precedes with before | ⟨_, before⟩
  · exact List.lt_irrefl _ before
  · exact List.lt_irrefl _ before

theorem keyMatches_iff : keyMatches query key = true ↔ lower query <:+: lower key :=
  Text.occurs_iff

theorem keyMatches_nil (key : Text) : keyMatches [] key = true :=
  keyMatches_iff.mpr List.nil_infix

theorem mem_search_iff :
    (package, key) ∈ index.search query ↔
      ∃ entry payload, index.package? package = some entry ∧ entry.get? key = some payload ∧
        lower query <:+: lower key := by
  simp only [search, List.mem_flatMap, List.mem_map, List.mem_filter, keyMatches_iff]
  constructor
  · rintro ⟨⟨name, entry⟩, there, _, ⟨among, inside⟩, same⟩
    cases same
    obtain ⟨payload, got⟩ := PackageEntry.mem_keys_iff.mp among
    exact ⟨entry, payload, package?_eq_some_iff.mpr there, got, inside⟩
  · rintro ⟨entry, payload, found, got, inside⟩
    have among := PackageEntry.mem_keys_iff.mpr ⟨payload, got⟩
    exact ⟨(package, entry), package?_eq_some_iff.mp found, key, ⟨among, inside⟩, rfl⟩

theorem mem_search_iff_of_held {entry : PackageEntry} {payload : Json}
    (found : index.package? package = some entry) (held : entry.get? key = some payload) :
    (package, key) ∈ index.search query ↔ lower query <:+: lower key := by
  rw [mem_search_iff]
  constructor
  · rintro ⟨_, _, _, _, inside⟩
    exact inside
  · exact fun inside => ⟨entry, payload, found, held, inside⟩

theorem search_inOrder (index : Index) (query : Text) :
    (index.search query).Pairwise Precedes := by
  rw [search, List.pairwise_flatMap]
  constructor
  · rintro ⟨package, entry⟩ _
    have keys := entry.keys_inOrder.filter (keyMatches query)
    exact List.pairwise_map.mpr (keys.imp fun before => .inr ⟨rfl, before⟩)
  · apply index.packages.ordered.imp
    rintro ⟨package, entry⟩ ⟨other, otherEntry⟩ before result there later after
    obtain ⟨_, _, rfl⟩ := List.mem_map.mp there
    obtain ⟨_, _, rfl⟩ := List.mem_map.mp after
    exact .inl before

theorem search_nodup (index : Index) (query : Text) : (index.search query).Nodup :=
  (search_inOrder index query).imp Precedes.ne

/-- The empty query finds every type. -/
theorem length_search_nil (index : Index) : (index.search []).length = index.typeCount := by
  rw [search, typeCount]
  induction index.entries with
  | nil => rfl
  | cons named rest ih =>
    obtain ⟨package, entry⟩ := named
    have all : entry.keys.filter (keyMatches []) = entry.keys :=
      List.filter_eq_self.mpr fun key _ => keyMatches_nil key
    simp only [List.flatMap_cons, List.foldr_cons, List.length_append, ih, all, List.length_map,
      PackageEntry.length_keys]

/-- A type is found by a part of its key exactly if the capital sigmas of the part keep the form that
they have in the key, or the lower-cased part occurs elsewhere in the lower-cased key. It is found by
every part without capital sigmas, by whole words, and by every part of a key in which capital sigmas
only begin words. -/
theorem parts_are_found_where_sigmas_keep_form {entry : PackageEntry} {payload : Json}
    {before part after : Text} (found : index.package? package = some entry)
    (held : entry.get? (before ++ part ++ after) = some payload) :
    ((package, before ++ part ++ after) ∈ index.search part ↔
      SigmasKeepForm before part after ∨
        ∃ first rest, first ++ lower part ++ rest = lower (before ++ part ++ after) ∧
          first ≠ lowerWithin [] (part ++ after) before) ∧
    ('Σ' ∉ part ∨ (meetsCased before.reverse = false ∧ meetsCased after = false) ∨
        SigmasBeginWords (before ++ part ++ after) →
      (package, before ++ part ++ after) ∈ index.search part) := by
  have exactly : (package, before ++ part ++ after) ∈ index.search part ↔ _ :=
    (mem_search_iff_of_held found held).trans infix_lower_iff
  refine ⟨exactly, ?_⟩
  rintro (free | ⟨start, finish⟩ | begin)
  · exact exactly.mpr (.inl (sigmasKeepForm_of_not_mem free))
  · exact exactly.mpr (.inl (sigmasKeepForm_of_whole_words start finish))
  · exact exactly.mpr (.inl (sigmasKeepForm_of_beginWords begin))

/-- An index of one type, which has a sigma inside its key. -/
def greek : Index := .ofList [("el", .ofList [("ΜΕΣΟΝ", .null)])]

/-- A sigma inside a part ends no word there, as it ends none in the key. -/
theorem greek_is_found_by_its_middle :
    let key : Text := "Μ" ++ "ΕΣΟ" ++ "Ν"
    greek.package? "el" = some (.ofList [(key, .null)]) ∧
      (PackageEntry.ofList [(key, .null)]).get? key = some .null ∧
      SigmasKeepForm "Μ" "ΕΣΟ" "Ν" ∧ (("el" : Text), key) ∈ greek.search "ΕΣΟ" := by
  intro key
  have found : greek.package? "el" = some (.ofList [(key, .null)]) := by rfl
  have held : (PackageEntry.ofList [(key, .null)]).get? key = some .null := by rfl
  have keep : SigmasKeepForm "Μ" "ΕΣΟ" "Ν" := sigmasKeepForm_iff.mpr (by decide +kernel)
  exact ⟨found, held, keep,
    (parts_are_found_where_sigmas_keep_form found held).1.mpr (.inl keep)⟩

/-- A sigma at the end of a part is taken for the end of a word, so the beginning of a key does not
find it. -/
theorem greek_is_missed_by_its_beginning :
    let key : Text := "" ++ "ΜΕΣ" ++ "ΟΝ"
    greek.package? "el" = some (.ofList [(key, .null)]) ∧
      (PackageEntry.ofList [(key, .null)]).get? key = some .null ∧
      (("el" : Text), key) ∉ greek.search "ΜΕΣ" := by
  refine ⟨by rfl, by rfl, ?_⟩
  decide +kernel

end Index

end DocBrowser
