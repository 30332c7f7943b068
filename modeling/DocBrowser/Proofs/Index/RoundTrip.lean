import DocBrowser.Index.Document
import DocBrowser.Proofs.Json.Reading
import DocBrowser.Proofs.Json.Results

/-!
Indexes written and read back. A document of packages and their types is read as the index that they
are collected to, whichever of the two forms it is written in, so that an index that was read
survives being written.
-/

namespace DocBrowser

open Json.Reader

/-- The types that are listed, and what is documented about them, collected. -/
def PackageEntry.collected (types : List (Text × Json)) : PackageEntry :=
  .ofList (types.map fun (key, payload) => (key, payload.collected))

theorem PackageEntry.get?_collected (types : List (Text × Json)) (key : Text) :
    (collected types).get? key = (Sorted.find? key types.reverse).map Json.collected := by
  rw [collected, ofList, get?, Dictionary.find?, Dictionary.ofList, Sorted.find?_collect,
    ← List.map_reverse]
  exact Sorted.find?_map Json.collected key types.reverse

namespace Index

/-- Packages and their types as a value, in the order in which they are listed. -/
def document (packages : List (Text × List (Text × Json))) : Json :=
  .object (packages.map fun (name, types) => (name, .object types))

/-- The index that the packages are collected to. -/
def collected (packages : List (Text × List (Text × Json))) : Index :=
  .ofList (packages.map fun (name, types) => (name, .collected types))

theorem package?_collected (packages : List (Text × List (Text × Json))) (name : Text) :
    (collected packages).package? name =
      (Sorted.find? name packages.reverse).map PackageEntry.collected := by
  rw [collected, package?, ofList, Dictionary.find?, Dictionary.ofList, Sorted.find?_collect,
    ← List.map_reverse]
  exact Sorted.find?_map PackageEntry.collected name packages.reverse

variable {packages : List (Text × List (Text × Json))} {index : Index} {bytes : Bytes}
  {limit depth : Nat} {layout : Json.Layout} {level : Nat}

/-- Where what is documented has its objects in order, the index is that of the lists as they are. -/
theorem collected_of_inOrder
    (inOrder : ∀ package ∈ packages, ∀ type ∈ package.2, type.2.InOrder) :
    collected packages = .ofList (packages.map fun (name, types) => (name, .ofList types)) := by
  rw [collected]
  congr 1
  apply List.map_congr_left
  rintro ⟨name, types⟩ there
  have each : ∀ type ∈ types, type.2.collected = type.2 := fun type within =>
    Json.collected_of_inOrder (inOrder _ there type within)
  simp only [PackageEntry.collected, Json.map_collected_of_forall each]

theorem takes_types {types : List (Text × Json)} (whole : (Json.object types).Integral)
    (shallow : (Json.object types).depth ≤ depth + 1)
    (enough : ((Json.object types).laidOut layout level).length ≤ limit) :
    Takes (objectOf limit (depth + 1) fun depth => value limit depth)
      ((Json.object types).laidOut layout level)
      (types.map fun (key, payload) => (key, payload.collected)) := by
  rw [Json.laidOut_object] at enough ⊢
  refine takes_objectOf (Json.laidOut layout (level + 1)) Json.collected (fun type there => ?_)
    (Nat.le_of_succ_le enough)
  have room := (Json.length_member_lt _ (Nat.le_of_succ_le enough) there).2
  exact takes_value type.2 layout (level + 1) (Json.integral_object_iff.mp whole type there)
    (Json.depth_object_le_iff.mp shallow type there) (Nat.le_of_lt room)

theorem laidOut_document (layout : Json.Layout) (level : Nat)
    (packages : List (Text × List (Text × Json))) :
    (document packages).laidOut layout level =
      '\x7b' :: layout.enclosed level '\x7d' (packages.map fun (name, types) =>
        layout.member name ((Json.object types).laidOut layout (level + 1))) := by
  rw [document, Json.laidOut_object, List.map_map]
  rfl

theorem integral_document_iff :
    (document packages).Integral ↔ ∀ package ∈ packages, (Json.object package.2).Integral := by
  rw [document, Json.integral_object_iff, List.forall_mem_map]

theorem depth_document_le_iff :
    (document packages).depth ≤ depth + 1 ↔
      ∀ package ∈ packages, (Json.object package.2).depth ≤ depth := by
  rw [document, Json.depth_object_le_iff, List.forall_mem_map]

theorem takes_members (whole : (document packages).Integral)
    (shallow : (document packages).depth ≤ depthLimit)
    (enough : ((document packages).laidOut layout level).length ≤ limit) :
    Takes (members limit) ((document packages).laidOut layout level)
      (packages.map fun (name, types) =>
        (name, types.map fun (key, payload) => (key, payload.collected))) := by
  rw [laidOut_document] at enough ⊢
  refine takes_objectOf (fun types => (Json.object types).laidOut layout (level + 1))
    (fun types => types.map fun (key, payload) => (key, payload.collected))
    (fun package there => ?_) (Nat.le_of_succ_le enough)
  have room := (Json.length_member_lt
    (fun types => (Json.object types).laidOut layout (level + 1))
    (Nat.le_of_succ_le enough) there).2
  exact takes_types (integral_document_iff.mp whole package there)
    (depth_document_le_iff.mp shallow package there) (Nat.le_of_lt room)

theorem ofBytes_laidOut (layout : Json.Layout) (whole : (document packages).Integral)
    (shallow : (document packages).depth ≤ depthLimit) :
    ofBytes (Utf8.encode ((document packages).laidOut layout 0)) = .ok (collected packages) := by
  have plain : Gzip.isMember (Utf8.encode ((document packages).laidOut layout 0)) = false := by
    rw [laidOut_document, encode_cons_of_short (by decide)]
    rfl
  have read : Json.Reader.whole members (Utf8.encode ((document packages).laidOut layout 0)) = _ :=
    whole_of_takes fun limit enough => takes_members whole shallow enough
  have found : ofJsonBytes (Utf8.encode ((document packages).laidOut layout 0)) =
      .ok (collected packages) := by
    rw [ofJsonBytes, read, collected]
    simp only [Except.map, List.map_map]
    rfl
  rw [ofBytes, plain, found]
  rfl

/-! Indexes that were read. -/

theorem document_entries (index : Index) :
    document (index.entries.map fun (name, entry) => (name, entry.types.entries)) =
      index.toJson := by
  rw [document, List.map_map]
  rfl

theorem collected_entries
    (each : ∀ package ∈ index.entries, ∀ type ∈ package.2.types.entries,
      type.2.collected = type.2) :
    collected (index.entries.map fun (name, entry) => (name, entry.types.entries)) = index := by
  have packages : (index.entries.map fun (name, entry) =>
      (name, PackageEntry.collected entry.types.entries)) = index.entries.map id := by
    apply List.map_congr_left
    rintro ⟨name, entry⟩ there
    have types := Json.map_collected_of_forall (each _ there)
    simp only [PackageEntry.collected, types, PackageEntry.ofList, Dictionary.ofList_entries, id]
  rw [collected, List.map_map]
  have same := congrArg ofList packages
  rw [List.map_id, ofList, ofList, entries, Dictionary.ofList_entries] at same
  exact same

theorem exists_of_ofBytes (read : ofBytes bytes = .ok index) :
    ∃ content packages, Json.Reader.whole members content = .ok packages ∧
      index = .ofList (packages.map fun (name, types) => (name, .ofList types)) := by
  have own : ∀ content, (ofJsonBytes content).mapError LoadError.parse = .ok index →
      ∃ packages, Json.Reader.whole members content = .ok packages ∧
        index = .ofList (packages.map fun (name, types) => (name, .ofList types)) := by
    intro content success
    rw [ofJsonBytes] at success
    cases given : Json.Reader.whole members content with
    | error fault =>
      rw [given] at success
      cases success
    | ok packages =>
      rw [given] at success
      cases success
      exact ⟨packages, rfl, rfl⟩
  rw [ofBytes] at read
  split at read
  · split at read
    · next content _ => exact ⟨content, own content read⟩
    · cases read
  · exact ⟨bytes, own bytes read⟩

/-- What is documented in an index that was read is inside two brackets of the document. -/
theorem shaped_of_ofBytes (read : ofBytes bytes = .ok index) :
    ∀ package ∈ index.entries, ∀ type ∈ package.2.types.entries, Shaped 125 type.2 := by
  obtain ⟨content, packages, given, rfl⟩ := exists_of_ofBytes read
  obtain ⟨rest, listed, _⟩ := exists_of_whole given
  have yields : Yields (members content.length) fun packages =>
      ∀ package ∈ packages, ∀ type ∈ package.2, Shaped 125 type.2 := by
    refine Yields.objectOf (p := fun types : List (Text × Json) =>
      ∀ type ∈ types, Shaped 125 type.2) ?_
    rintro _ ⟨⟩
    refine Yields.objectOf ?_
    rintro _ ⟨⟩
    exact yields_value _ _
  intro package there type within
  have named := Sorted.mem_of_mem_collect there
  obtain ⟨⟨name, types⟩, among, rfl⟩ := List.mem_map.mp named
  exact yields _ packages rest listed _ among type (Sorted.mem_of_mem_collect within)

theorem ofBytes_toJson (layout : Json.Layout) (read : ofBytes bytes = .ok index)
    (whole : index.toJson.Integral) :
    ofBytes (Utf8.encode (index.toJson.laidOut layout 0)) = .ok index := by
  have shaped := shaped_of_ofBytes read
  have shallow : index.toJson.depth ≤ depthLimit := by
    rw [← document_entries, depthLimit, depth_document_le_iff, List.forall_mem_map]
    intro package there
    exact Json.depth_object_le_iff.mpr fun type within => (shaped package there type within).shallow
  rw [← document_entries] at whole shallow ⊢
  rw [ofBytes_laidOut layout whole shallow, collected_entries fun package there type within =>
    (shaped package there type within).collected]

theorem ofBytes_payload (layout : Json.Layout) {package : Text × PackageEntry}
    {type : Text × Json} (read : ofBytes bytes = .ok index) (whole : index.toJson.Integral)
    (there : package ∈ index.entries) (within : type ∈ package.2.types.entries) :
    Json.Reader.ofBytes (Utf8.encode (type.2.laidOut layout 0)) = .ok type.2 := by
  have shaped := shaped_of_ofBytes read package there type within
  rw [← document_entries, integral_document_iff, List.forall_mem_map] at whole
  have own := Json.integral_object_iff.mp (whole package there) type within
  have shallow : type.2.depth ≤ depthLimit := Nat.le_trans shaped.shallow (by decide)
  have given : Json.Reader.whole (fun limit => value limit depthLimit)
      (Utf8.encode (type.2.laidOut layout 0)) = .ok type.2.collected :=
    whole_of_takes fun limit enough => takes_value type.2 layout 0 own shallow enough
  rw [Json.Reader.ofBytes, given, shaped.collected]

/-- Packages that are written in either form are read as the index that they are collected to, where
the last of several members of one name counts as a whole. So an index that was read survives being
written, and so does everything that is documented in it. -/
theorem index_survives_writing :
    (∀ packages, (document packages).Integral → (document packages).depth ≤ depthLimit →
      ofBytes (Utf8.encode (document packages).compact) = .ok (collected packages) ∧
      ofBytes (Utf8.encode (document packages).pretty) = .ok (collected packages)) ∧
    (∀ packages, (∀ package ∈ packages, ∀ type ∈ package.2, type.2.InOrder) →
      collected packages = .ofList (packages.map fun (name, types) => (name, .ofList types))) ∧
    (∀ packages name, (collected packages).package? name =
      (Sorted.find? name packages.reverse).map PackageEntry.collected) ∧
    (∀ types key, (PackageEntry.collected types).get? key =
      (Sorted.find? key types.reverse).map Json.collected) ∧
    ∀ bytes index, ofBytes bytes = .ok index → index.toJson.Integral →
      ofBytes (Utf8.encode index.toJson.compact) = .ok index ∧
      ofBytes (Utf8.encode index.toJson.pretty) = .ok index ∧
      ∀ package ∈ index.entries, ∀ type ∈ package.2.types.entries,
        Json.Reader.ofBytes (Utf8.encode type.2.pretty) = .ok type.2 := by
  refine ⟨?_, fun packages => collected_of_inOrder, package?_collected,
    PackageEntry.get?_collected, ?_⟩
  · intro packages whole shallow
    rw [Json.compact_eq_laidOut _ 0, Json.pretty]
    exact ⟨ofBytes_laidOut _ whole shallow, ofBytes_laidOut _ whole shallow⟩
  · intro bytes index read whole
    rw [Json.compact_eq_laidOut _ 0, Json.pretty]
    refine ⟨ofBytes_toJson _ read whole, ofBytes_toJson _ read whole, ?_⟩
    intro package there type within
    rw [Json.pretty]
    exact ofBytes_payload _ read whole there within

/-- A package that is listed twice, with a key that is listed twice and holds a member twice. -/
def repeated : List (Text × List (Text × Json)) :=
  [("a", [("lost", .bool true)]),
    ("a", [("k\n", .null),
      ("k\n", .array [.number (.integer (-0x8000000000000000)),
        .number (.integer 0xFFFFFFFFFFFFFFFF), .object [("\"", .null), ("\"", .string "é")]])])]

/-- What is listed last under a name is read, as it is with its own members collected. -/
theorem repeated_survives_writing :
    (document repeated).Integral ∧ (document repeated).depth ≤ depthLimit ∧
      ∃ index entry, ofBytes (Utf8.encode (document repeated).compact) = .ok index ∧
        index.package? "a" = some entry ∧ entry.get? "lost" = none ∧
        entry.get? "k\n" = some (.array [.number (.integer (-0x8000000000000000)),
          .number (.integer 0xFFFFFFFFFFFFFFFF), .object [("\"", .string "é")]]) ∧
        index.toJson.Integral ∧ ofBytes (Utf8.encode index.toJson.pretty) = .ok index := by
  have whole : (document repeated).Integral := by
    intro n there
    simp [document, repeated, Json.parts, Json.partsOfItems, Json.partsOfMembers] at there
    rcases there with rfl | rfl
    · exact ⟨by decide, by decide⟩
    · exact ⟨by decide, by decide⟩
  have shallow : (document repeated).depth ≤ depthLimit := by decide
  obtain ⟨reads, _, _, _, survives⟩ := index_survives_writing
  have read := (reads repeated whole shallow).1
  have kept : (collected repeated).toJson.Integral := by
    have same : (collected repeated).toJson = .object [("a", .object [("k\n", .array
        [.number (.integer (-0x8000000000000000)), .number (.integer 0xFFFFFFFFFFFFFFFF),
          .object [("\"", .string "é")]])])] := by rfl
    intro n there
    simp [same, Json.parts, Json.partsOfItems, Json.partsOfMembers] at there
    rcases there with rfl | rfl
    · exact ⟨by decide, by decide⟩
    · exact ⟨by decide, by decide⟩
  exact ⟨whole, shallow, collected repeated, _, read, rfl, rfl, rfl, kept,
    (survives _ _ read kept).2.1⟩

end Index

end DocBrowser
