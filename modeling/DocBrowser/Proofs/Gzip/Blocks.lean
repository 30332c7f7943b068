import DocBrowser.Gzip.Inflate
import DocBrowser.Proofs.Gzip.Bits

/-!
Compressed data as it is written: a row of blocks, each of them stored or in words of the fixed code
for single bytes. However content is divided into such blocks, expanding the row gives the content,
and what stands after the row is left.
-/

namespace DocBrowser.Gzip

variable {rest : List Bool} {out : Output} {limit : Nat}

/-! The fixed code. -/

/-- The word of a byte, or of the end of a block, in the fixed code. -/
def fixedWord (symbol : Nat) : List Bool :=
  if symbol < 144 then Code.wordBits 8 (0x30 + symbol)
  else if symbol < endOfBlock then Code.wordBits 9 (0x190 + (symbol - 144))
  else Code.wordBits 7 (symbol - endOfBlock)

namespace Code

/-- The symbol whose word is exactly the given one. -/
def symbol? : Code → List Bool → Option Nat
  | .leaf symbol, [] => some symbol
  | .branch zero one, bit :: word => symbol? (if bit then one else zero) word
  | _, _ => none

theorem read_ofBits {code : Code} {word : List Bool} {symbol : Nat}
    (found : code.symbol? word = some symbol) (rest : List Bool) :
    code.read (.ofBits (word ++ rest)) = .ok (symbol, .ofBits rest) := by
  fun_induction symbol? code word with
  | case1 other =>
    cases found
    rfl
  | case2 zero one bit word ih =>
    rw [List.cons_append, read, Stream.next_ofBits]
    cases bit with
    | false => exact ih found
    | true => exact ih found
  | case3 => cases found

end Code

theorem symbol?_fixedWord :
    ∀ symbol ≤ endOfBlock, fixedCodes.literals.symbol? (fixedWord symbol) = some symbol := by
  decide +kernel

theorem length_fixedWord_pos (symbol : Nat) : 0 < (fixedWord symbol).length := by
  rw [fixedWord]
  split
  · simp [Code.wordBits]
  · split
    · simp [Code.wordBits]
    · simp [Code.wordBits]

/-! Blocks. -/

inductive Block
  /-- Bytes as they are, after bits that fill up the byte in which the block begins. -/
  | stored (filling : List Bool) (content : Bytes)
  /-- Bytes in words of the fixed code. -/
  | coded (content : Bytes)

namespace Block

def content : Block → Bytes
  | .stored _ content => content
  | .coded content => content

/-- A block as it is written; whether it is the last one is said in front. -/
def bits (final : Bool) : Block → List Bool
  | .stored filling content =>
    final :: fieldBits 2 0 ++ filling ++ fieldBits 16 content.length ++
      fieldBits 16 (0xFFFF - content.length) ++ bitsOfBytes content
  | .coded content =>
    final :: fieldBits 2 1 ++ content.flatMap (fun b => fixedWord b.toNat) ++ fixedWord endOfBlock

/-- Whether a block can be written after so many bits. The length of a stored block has 16 bits, and
its bytes begin where a byte does. -/
def Fits (before : Nat) : Block → Prop
  | .stored filling content =>
    content.length ≤ 0xFFFF ∧ filling.length < 8 ∧ (before + 3 + filling.length) % 8 = 0
  | .coded _ => True

instance (before : Nat) (block : Block) : Decidable (block.Fits before) :=
  match block with
  | .stored filling content => inferInstanceAs (Decidable (content.length ≤ 0xFFFF ∧
      filling.length < 8 ∧ (before + 3 + filling.length) % 8 = 0))
  | .coded _ => .isTrue trivial

end Block

theorem codedBlock_written (content : Bytes) (enough : content.length < limit) :
    codedBlock fixedCodes limit out (.ofBits (content.flatMap (fun b => fixedWord b.toNat) ++
        (fixedWord endOfBlock ++ rest))) =
      .ok (out ++ content.toArray, .ofBits rest) := by
  induction content generalizing out limit with
  | nil =>
    obtain ⟨left, rfl⟩ := Nat.exists_eq_add_one_of_ne_zero (Nat.ne_of_gt enough)
    have read := Code.read_ofBits (symbol?_fixedWord endOfBlock (Nat.le_refl _)) rest
    rw [List.flatMap_nil, List.nil_append, codedBlock, read]
    simp [bind, Except.bind]
  | cons b content ih =>
    obtain ⟨left, rfl⟩ := Nat.exists_eq_add_one_of_ne_zero (Nat.ne_of_gt (Nat.zero_lt_of_lt enough))
    have small : b.toNat < endOfBlock := b.toNat_lt
    have read := Code.read_ofBits (symbol?_fixedWord b.toNat (Nat.le_of_lt small))
    rw [List.flatMap_cons, List.append_assoc, codedBlock, read]
    simp only [bind, Except.bind, small, if_true, UInt8.ofNat_toNat]
    rw [ih (Nat.lt_of_succ_lt_succ enough)]
    simp

theorem storedBlock_written {filling : List Bool} {content : Bytes}
    (short : content.length ≤ 0xFFFF) (begun : filling.length < 8) (whole : rest.length % 8 = 0) :
    storedBlock out (.ofBits (filling ++ (fieldBits 16 content.length ++
        (fieldBits 16 (0xFFFF - content.length) ++ (bitsOfBytes content ++ rest))))) =
      .ok (out ++ content.toArray, .ofBits rest) := by
  have fits : ∀ n ≤ 0xFFFF, n % Nat.pow 2 16 = n := fun n small =>
    Nat.mod_eq_of_lt (Nat.lt_succ_of_le small)
  have turned : content.length + (0xFFFF - content.length) = 0xFFFF := by omega
  have bytes : (fieldBits 16 content.length ++ (fieldBits 16 (0xFFFF - content.length) ++
      (bitsOfBytes content ++ rest))).length % 8 = 0 := by
    simp only [List.length_append, length_fieldBits, length_bitsOfBytes]
    omega
  rw [storedBlock, Stream.aligned_ofBits begun bytes, Stream.field_ofBits]
  simp only [bind, Except.bind, Stream.field_ofBits, fits _ short, fits _ (Nat.sub_le _ _), turned,
    ne_eq, not_true_eq_false, if_false, Stream.takeBytes_ofBits content whole]

theorem header_ofBits (final : Bool) {kind : Nat} (small : kind < 4) (rest : List Bool) :
    (Stream.ofBits (final :: (fieldBits 2 kind ++ rest))).field 3 =
      .ok (final.toNat + 2 * kind, .ofBits rest) := by
  have fits : kind % Nat.pow 2 2 = kind := Nat.mod_eq_of_lt small
  rw [Stream.field, Stream.next_ofBits]
  simp only [bind, Except.bind, Stream.field_ofBits, fits]

theorem block_written {block : Block} {before : Nat} (final : Bool) (fits : block.Fits before)
    (enough : block.content.length < limit)
    (whole : (before + (block.bits final).length + rest.length) % 8 = 0) :
    Gzip.block limit out (.ofBits (block.bits final ++ rest)) =
      .ok (final, out ++ block.content.toArray, .ofBits rest) := by
  have mark : ∀ kind, decide ((final.toNat + 2 * kind) % 2 = 1) = final := by
    intro kind
    rw [Nat.add_mul_mod_self_left]
    cases final <;> rfl
  have kind : ∀ kind, (final.toNat + 2 * kind) / 2 = kind := by
    intro kind
    cases final <;> simp only [Bool.toNat_false, Bool.toNat_true] <;> omega
  cases block with
  | stored filling content =>
    obtain ⟨short, begun, aligned⟩ := fits
    have left : rest.length % 8 = 0 := by
      simp only [Block.bits, List.length_append, List.length_cons, length_fieldBits,
        length_bitsOfBytes] at whole
      omega
    rw [Block.bits, Gzip.block]
    simp only [List.cons_append, List.append_assoc, header_ofBits final (by decide : 0 < 4), mark,
      kind, bind, Except.bind, if_true, storedBlock_written short begun left, Block.content]
  | coded content =>
    rw [Block.bits, Gzip.block]
    simp only [List.cons_append, List.append_assoc, header_ofBits final (by decide : 1 < 4), mark,
      kind, bind, Except.bind, Nat.one_ne_zero, if_false, if_true,
      codedBlock_written content enough, Block.content]

/-! Rows of blocks. -/

/-- Blocks one after the other; only the last of them is marked as such. -/
def rowBits : List Block → List Bool
  | [] => []
  | [block] => block.bits true
  | block :: rest => block.bits false ++ rowBits rest

/-- Whether blocks can be written in a row after so many bits. A row has at least one block. -/
def RowFits (before : Nat) : List Block → Prop
  | [] => False
  | [block] => block.Fits before
  | block :: rest => block.Fits before ∧ RowFits (before + (block.bits false).length) rest

def rowContent (row : List Block) : Bytes := row.flatMap Block.content

variable {row : List Block} {before whole : Nat}

@[simp]
theorem rowBits_cons_cons (block next : Block) (later : List Block) :
    rowBits (block :: next :: later) = block.bits false ++ rowBits (next :: later) := rfl

theorem blocks_written (fits : RowFits before row)
    (enough : ∀ block ∈ row, block.content.length < whole) (count : row.length ≤ limit)
    (aligned : (before + (rowBits row).length + rest.length) % 8 = 0) :
    blocks whole limit out (.ofBits (rowBits row ++ rest)) =
      .ok (out ++ (rowContent row).toArray, .ofBits rest) := by
  -- On the row, with the bits before it in hand: how a stored block is filled up depends on where
  -- it begins.
  induction row generalizing before limit out with
  | nil => exact fits.elim
  | cons block later ih =>
    obtain ⟨left, rfl⟩ := Nat.exists_eq_add_one_of_ne_zero (Nat.ne_of_gt (Nat.zero_lt_of_lt count))
    have ⟨first, others⟩ := List.forall_mem_cons.mp enough
    cases later with
    | nil =>
      rw [rowBits, blocks, block_written true fits first aligned]
      simp [bind, Except.bind, rowContent]
    | cons next later =>
      have ⟨here, there⟩ := fits
      rw [rowBits_cons_cons, List.length_append] at aligned
      have total : (before + (block.bits false).length +
          (rowBits (next :: later) ++ rest).length) % 8 = 0 := by
        rw [List.length_append]
        omega
      rw [rowBits_cons_cons, List.append_assoc, blocks, block_written false here first total]
      simp only [bind, Except.bind, Bool.false_eq_true, if_false]
      rw [ih there others (Nat.le_of_succ_le_succ count) (by omega)]
      simp [rowContent]

theorem Block.length_content_lt (final : Bool) (block : Block) :
    block.content.length < (block.bits final).length := by
  cases block with
  | stored filling content =>
    simp only [bits, Block.content, List.length_append, List.length_cons, length_fieldBits,
      length_bitsOfBytes]
    omega
  | coded content =>
    have words : content.length ≤ (content.flatMap fun b => fixedWord b.toNat).length := by
      induction content with
      | nil => simp
      | cons b content ih =>
        have first := length_fixedWord_pos b.toNat
        simp only [List.flatMap_cons, List.length_append, List.length_cons]
        omega
    simp only [bits, Block.content, List.length_append, List.length_cons, length_fieldBits]
    omega

/-- A row takes a bit at least for each block and for each byte in it. -/
theorem length_le_rowBits (row : List Block) :
    row.length ≤ (rowBits row).length ∧
      ∀ block ∈ row, block.content.length < (rowBits row).length := by
  induction row with
  | nil => exact ⟨Nat.le_refl _, fun _ there => absurd there List.not_mem_nil⟩
  | cons block later ih =>
    cases later with
    | nil =>
      have own := block.length_content_lt true
      refine ⟨Nat.succ_le_of_lt (Nat.zero_lt_of_lt own), ?_⟩
      simpa [rowBits] using own
    | cons next later =>
      have own := block.length_content_lt false
      obtain ⟨count, contents⟩ := ih
      rw [rowBits_cons_cons, List.length_append]
      refine ⟨?_, List.forall_mem_cons.mpr ⟨?_, fun other there => ?_⟩⟩
      · rw [List.length_cons]
        omega
      · omega
      · have inside := contents other there
        omega

/-- Expanding a row of blocks gives their content, and the bytes after the row are left. The bits
that fill up its last byte do not count. -/
theorem inflate_written {data : Bytes} {filling : List Bool} (fits : RowFits 0 row)
    (written : bitsOfBytes data = rowBits row ++ filling) (begun : filling.length < 8)
    (after : Bytes) : inflate (data ++ after) = .ok ((rowContent row).toArray, after) := by
  have total := congrArg List.length written
  rw [length_bitsOfBytes, List.length_append] at total
  have later : (bitsOfBytes after).length % 8 = 0 := by simp
  have ⟨count, contents⟩ := length_le_rowBits row
  have room : (rowBits row).length ≤ 8 * (data ++ after).length := by
    rw [List.length_append]
    omega
  have spelled : Stream.ofBytes (data ++ after) =
      .ofBits (rowBits row ++ (filling ++ bitsOfBytes after)) := by
    rw [← Stream.ofBits_bitsOfBytes, bitsOfBytes_append, written, List.append_assoc]
  have aligned : (0 + (rowBits row).length + (filling ++ bitsOfBytes after).length) % 8 = 0 := by
    rw [List.length_append]
    omega
  have enough : ∀ block ∈ row, block.content.length < 8 * (data ++ after).length + 1 := by
    intro block there
    have fits := contents block there
    omega
  have read : blocks (8 * (data ++ after).length + 1) (8 * (data ++ after).length + 1) #[]
      (.ofBits (rowBits row ++ (filling ++ bitsOfBytes after))) = _ :=
    blocks_written fits enough (Nat.le_succ_of_le (Nat.le_trans count room)) aligned
  rw [inflate, spelled, read, Stream.ofBits_append begun later, bytesOfBits_bitsOfBytes]
  simp [bind, Except.bind]

end DocBrowser.Gzip
