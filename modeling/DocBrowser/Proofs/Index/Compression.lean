import DocBrowser.Index.Document
import DocBrowser.Proofs.Gzip.Truncation

/-!
Compressed documents. A member is read as the index that its content is, and any part of it that is
long enough to look like a member but not all of it is refused.
-/

namespace DocBrowser.Index

open Gzip

theorem isMember_of_prefix {member : Member} {part : Bytes} (cut : part <+: member.bytes)
    (begun : 2 ≤ part.length) : isMember part = true := by
  have front : magic <+: member.bytes := ⟨_, rfl⟩
  exact List.isPrefixOf_iff_prefix.mpr (List.prefix_of_prefix_length_le front cut begun)

/-- A member is read as its content is, which is not expanded once more, and what comes after the
member does not count. -/
theorem compressed_and_plain_agree (member : Member) (after : Bytes) :
    ofBytes (member.bytes ++ after) = (ofJsonBytes member.content).mapError .parse ∧
      (isMember member.content = false →
        ofBytes (member.bytes ++ after) = ofBytes member.content) := by
  have looks : isMember (member.bytes ++ after) = true := rfl
  have read : ofBytes (member.bytes ++ after) = (ofJsonBytes member.content).mapError .parse := by
    rw [ofBytes, looks, member.expand_written]
    rfl
  refine ⟨read, fun plain => ?_⟩
  rw [read, ofBytes, plain]
  rfl

/-- The document of an empty index in two blocks, one stored and one coded, after a header that has
every field. -/
def twoBlocks : Member where
  isText := true
  extra := some [0, 1]
  name := some [0x61]
  comment := some []
  isChecked := true
  time := [1, 2, 3, 4]
  hints := 2
  system := 3
  row := [.stored [true, false, false, true, false] [0x7B], .coded [0x7D]]
  filling := [false, true, false, false, false, false]
  time_length := rfl
  extra_short := by decide
  name_plain := by decide
  comment_plain := by decide
  row_fits := by exact ⟨by decide, trivial⟩
  filling_short := by decide
  whole := by decide

theorem twoBlocks_is_read : isMember twoBlocks.content = false ∧
    ofBytes (twoBlocks.bytes ++ [0x1F, 0x8B]) = ofBytes [0x7B, 0x7D] ∧
    ofBytes [0x7B, 0x7D] = .ok (.ofList []) :=
  ⟨rfl, (compressed_and_plain_agree twoBlocks [0x1F, 0x8B]).2 rfl, rfl⟩

/-- No part of a member is read as an index, wherever it is cut. -/
theorem truncated_member_is_refused {member : Member} {part : Bytes} (cut : part <+: member.bytes)
    (begun : 2 ≤ part.length) (short : part.length < member.bytes.length) :
    ∃ fault, ofBytes part = .error (.decompress fault) := by
  have looks := isMember_of_prefix cut begun
  cases expanded : expand part with
  | ok content =>
    rw [eq_of_expand cut expanded] at short
    exact (Nat.lt_irrefl _ short).elim
  | error fault =>
    refine ⟨fault, ?_⟩
    rw [ofBytes, looks, expanded]
    rfl

/-- Without its trailer a member is refused, though its content could be read. -/
theorem twoBlocks_without_trailer :
    ∃ part, part ++ twoBlocks.trailer = twoBlocks.bytes ∧ 2 ≤ part.length ∧
      part.length < twoBlocks.bytes.length ∧
      ∃ fault, ofBytes part = .error (.decompress fault) := by
  have cut : twoBlocks.header ++ twoBlocks.headerCheck ++ twoBlocks.data <+: twoBlocks.bytes :=
    ⟨twoBlocks.trailer, rfl⟩
  refine ⟨_, rfl, by decide, by decide, ?_⟩
  exact truncated_member_is_refused cut (by decide) (by decide)

end DocBrowser.Index
