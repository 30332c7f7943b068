import DocBrowser.Gzip.Member
import DocBrowser.Proofs.Gzip.Blocks

/-!
Members as they are written: a header with any of its optional fields, a row of blocks, and the
checksum and length of what they hold. Expanding a member gives its content, whatever comes after.
-/

namespace DocBrowser.Gzip

/-! Numbers. -/

/-- The lowest sixteen bits of a number, in two bytes. -/
def shortBytes (n : Nat) : Bytes := [UInt8.ofNat n, UInt8.ofNat (n / 0x100)]

/-- The lowest 32 bits of a number, in four bytes. -/
def longBytes (n : Nat) : Bytes := shortBytes n ++ shortBytes (n / 0x10000)

theorem short?_written (n : Nat) (rest : Bytes) :
    short? (shortBytes n ++ rest) = some (n % 0x10000, rest) := by
  have value : n % 0x100 + 0x100 * (n / 0x100 % 0x100) = n % 0x10000 := by omega
  change some ((UInt8.ofNat n).toNat + 0x100 * (UInt8.ofNat (n / 0x100)).toNat, rest) = _
  rw [UInt8.toNat_ofNat', UInt8.toNat_ofNat']
  exact congrArg (fun m => some (m, rest)) value

theorem long?_written (n : Nat) (rest : Bytes) :
    long? (longBytes n ++ rest) = some (n % 0x100000000, rest) := by
  have value : n % 0x10000 + 0x10000 * (n / 0x10000 % 0x10000) = n % 0x100000000 := by omega
  rw [longBytes, List.append_assoc, long?, short?_written]
  simp only [bind, Option.bind, short?_written, value]

/-! Members. -/

structure Member where
  isText : Bool
  extra : Option Bytes
  name : Option Bytes
  comment : Option Bytes
  /-- Whether the header has a checksum of its own. -/
  isChecked : Bool
  time : Bytes
  hints : UInt8
  system : UInt8
  row : List Block
  /-- The bits that fill up the last byte of the row. -/
  filling : List Bool
  time_length : time.length = 4
  extra_short : ∀ field ∈ extra, field.length ≤ maxField
  name_plain : ∀ field ∈ name, field.length ≤ maxField ∧ 0 ∉ field
  comment_plain : ∀ field ∈ comment, field.length ≤ maxField ∧ 0 ∉ field
  row_fits : RowFits 0 row
  filling_short : filling.length < 8
  whole : (rowBits row ++ filling).length % 8 = 0

namespace Member

def content (member : Member) : Bytes := rowContent member.row

def flags (member : Member) : UInt8 :=
  UInt8.ofNat (member.isText.toNat + 2 * member.isChecked.toNat + 4 * member.extra.isSome.toNat +
    8 * member.name.isSome.toNat + 0x10 * member.comment.isSome.toNat)

def extraBytes (member : Member) : Bytes :=
  member.extra.elim [] fun field => shortBytes field.length ++ field

/-- A field that ends with a zero byte, if it is there. -/
def zeroEnded (field : Option Bytes) : Bytes := field.elim [] (· ++ [0])

def header (member : Member) : Bytes :=
  magic ++ [8, member.flags] ++ member.time ++ [member.hints, member.system] ++
    member.extraBytes ++ zeroEnded member.name ++ zeroEnded member.comment

def headerCheck (member : Member) : Bytes :=
  if member.isChecked then shortBytes (checksum member.header).toNat else []

def data (member : Member) : Bytes := bytesOfBits (rowBits member.row ++ member.filling)

def trailer (member : Member) : Bytes :=
  longBytes (checksum member.content).toNat ++ longBytes member.content.length

def bytes (member : Member) : Bytes :=
  member.header ++ member.headerCheck ++ member.data ++ member.trailer

end Member

/-! Headers. -/

theorem afterZero_written {field : Bytes} (short : field.length ≤ maxField) (plain : 0 ∉ field)
    (rest : Bytes) : afterZero (field ++ 0 :: rest) = .ok rest := by
  have inner : ∀ b ∈ field, (b != 0) = true := by
    intro b there
    exact bne_iff_ne.mpr fun zero => plain (zero ▸ there)
  have taken : (field ++ 0 :: rest).takeWhile (· != 0) = field := by
    rw [List.takeWhile_append_of_pos inner]
    simp
  have dropped : (field ++ 0 :: rest).dropWhile (· != 0) = 0 :: rest := by
    rw [List.dropWhile_append_of_pos inner]
    simp
  rw [afterZero, taken, dropped]
  simp [Nat.not_lt.mpr short]

theorem afterText_written {field : Option Bytes}
    (plain : ∀ bytes ∈ field, bytes.length ≤ maxField ∧ 0 ∉ bytes) (rest : Bytes) :
    afterText field.isSome (Member.zeroEnded field ++ rest) = .ok rest := by
  cases field with
  | none => rfl
  | some bytes =>
    have ⟨short, zeros⟩ := plain bytes rfl
    have spelled : Member.zeroEnded (some bytes) ++ rest = bytes ++ 0 :: rest := by
      simp [Member.zeroEnded]
    rw [spelled]
    exact afterZero_written short zeros rest

namespace Member

variable (member : Member)

theorem flag_flags :
    flag member.flags 1 = member.isChecked ∧ flag member.flags 2 = member.extra.isSome ∧
    flag member.flags 3 = member.name.isSome ∧ flag member.flags 4 = member.comment.isSome ∧
    flag member.flags 5 = false ∧ flag member.flags 6 = false ∧ flag member.flags 7 = false := by
  have all : ∀ isText isChecked extra name comment : Bool,
      let flags := UInt8.ofNat (isText.toNat + 2 * isChecked.toNat + 4 * extra.toNat +
        8 * name.toNat + 0x10 * comment.toNat)
      flag flags 1 = isChecked ∧ flag flags 2 = extra ∧ flag flags 3 = name ∧
        flag flags 4 = comment ∧ flag flags 5 = false ∧ flag flags 6 = false ∧
        flag flags 7 = false := by
    decide
  exact all _ _ _ _ _

theorem afterExtra_written (rest : Bytes) :
    afterExtra member.flags (member.extraBytes ++ rest) = .ok rest := by
  rw [afterExtra, member.flag_flags.2.1, extraBytes]
  cases extra : member.extra with
  | none => rfl
  | some field =>
    have short := member.extra_short field extra
    have length : field.length % 0x10000 = field.length :=
      Nat.mod_eq_of_lt (Nat.lt_succ_of_le short)
    simp [short?_written, length]

theorem exists_header (rest : Bytes) :
    ∃ a b c d, member.header ++ rest =
      0x1F :: 0x8B :: 8 :: member.flags :: a :: b :: c :: d :: member.hints :: member.system ::
        (member.extraBytes ++ (zeroEnded member.name ++ (zeroEnded member.comment ++ rest))) := by
  match time : member.time, member.time_length with
  | [a, b, c, d], _ => exact ⟨a, b, c, d, by simp [header, magic, time]⟩

theorem afterCheck_written (rest : Bytes) :
    afterCheck member.flags (member.header ++ (member.headerCheck ++ rest))
      (member.headerCheck ++ rest) = .ok rest := by
  have front : (member.header ++ (member.headerCheck ++ rest)).take
      ((member.header ++ (member.headerCheck ++ rest)).length -
        (member.headerCheck ++ rest).length) = member.header := by
    rw [List.length_append, Nat.add_sub_cancel, List.take_left]
  rw [afterCheck, member.flag_flags.1, front, headerCheck]
  cases member.isChecked with
  | false => rfl
  | true => simp [short?_written]

theorem afterHeader_written (rest : Bytes) :
    afterHeader (member.header ++ (member.headerCheck ++ rest)) = .ok rest := by
  obtain ⟨_, _, named, commented, first, second, third⟩ := member.flag_flags
  have check := member.afterCheck_written rest
  obtain ⟨a, b, c, d, spelled⟩ := member.exists_header (member.headerCheck ++ rest)
  rw [spelled] at check ⊢
  rw [afterHeader, if_neg (by simp)]
  simp only [List.getD_cons_succ, List.getD_cons_zero, List.drop_succ_cons, List.drop_zero, ne_eq,
    not_true_eq_false, first, second, third, Bool.false_eq_true, or_self, if_false,
    afterExtra_written, named, commented, afterText_written member.name_plain,
    afterText_written member.comment_plain, bind, Except.bind, check]

theorem inflate_data (after : Bytes) :
    inflate (member.data ++ after) = .ok (member.content.toArray, after) :=
  inflate_written member.row_fits (bitsOfBytes_bytesOfBits member.whole) member.filling_short after

theorem length_trailer : member.trailer.length = 8 := rfl

theorem checkTrailer_written (after : Bytes) :
    checkTrailer member.content (member.trailer ++ after) = .ok () := by
  have room : ¬ (member.trailer ++ after).length < 8 := by
    rw [List.length_append, length_trailer]
    omega
  have sum : (checksum member.content).toNat % 0x100000000 = (checksum member.content).toNat :=
    Nat.mod_eq_of_lt (checksum member.content).toNat_lt
  rw [checkTrailer, if_neg room, trailer, List.append_assoc, long?_written]
  simp only [long?_written, sum, and_self, if_true]

/-- Expanding a member gives its content, whatever comes after it. -/
theorem expand_written (after : Bytes) : expand (member.bytes ++ after) = .ok member.content := by
  have data : (inflate (member.data ++ (member.trailer ++ after))).mapError Fault.data =
      .ok (member.content.toArray, member.trailer ++ after) := by
    rw [inflate_data]
    rfl
  rw [expand, bytes]
  simp only [List.append_assoc, afterHeader_written, bind, Except.bind, data, checkTrailer_written]

end Member

end DocBrowser.Gzip
