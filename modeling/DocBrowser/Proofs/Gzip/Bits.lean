import DocBrowser.Gzip.Stream

/-!
Streams as the bits that they still hold. A stream in which less than a byte is begun is determined
by its bits, so reading is described by what is taken off a list of bits.
-/

namespace DocBrowser.Gzip

/-- The `width` lowest bits of a number, the least significant first. -/
def fieldBits (width n : Nat) : List Bool := (List.range width).map n.testBit

def bitsOfBytes (bytes : Bytes) : List Bool := bytes.flatMap bitsOfByte

def byteOfBits (bits : List Bool) : UInt8 :=
  UInt8.ofNat (bits.foldr (fun bit n => bit.toNat + 2 * n) 0)

/-- The bytes that bits make up, without the last ones if they fill no byte. -/
def bytesOfBits : List Bool → Bytes
  | a :: b :: c :: d :: e :: f :: g :: h :: rest =>
    byteOfBits [a, b, c, d, e, f, g, h] :: bytesOfBits rest
  | _ => []

variable {bits first rest : List Bool} {bytes : Bytes} {width n : Nat}

theorem fieldBits_succ (width n : Nat) :
    fieldBits (width + 1) n = n.testBit 0 :: fieldBits width (n / 2) := by
  have later : n.testBit ∘ Nat.succ = (n / 2).testBit := by
    funext bit
    exact Nat.testBit_succ n bit
  rw [fieldBits, List.range_succ_eq_map, List.map_cons, List.map_map, later]
  rfl

@[simp]
theorem length_fieldBits (width n : Nat) : (fieldBits width n).length = width := by
  simp [fieldBits]

@[simp]
theorem bitsOfBytes_nil : bitsOfBytes [] = [] := rfl

@[simp]
theorem bitsOfBytes_append (first rest : Bytes) :
    bitsOfBytes (first ++ rest) = bitsOfBytes first ++ bitsOfBytes rest :=
  List.flatMap_append

theorem bitsOfBytes_cons (b : UInt8) (bytes : Bytes) :
    bitsOfBytes (b :: bytes) = bitsOfByte b ++ bitsOfBytes bytes :=
  List.flatMap_cons

@[simp]
theorem length_bitsOfBytes (bytes : Bytes) : (bitsOfBytes bytes).length = 8 * bytes.length := by
  induction bytes with
  | nil => rfl
  | cons b bytes ih =>
    rw [bitsOfBytes_cons, List.length_append, ih, List.length_cons]
    change 8 + _ = _
    omega

@[simp]
theorem bytesOfBits_nil : bytesOfBits [] = [] := rfl

theorem byteOfBits_bitsOfByte (b : UInt8) : byteOfBits (bitsOfByte b) = b := by
  have all : ∀ n < 256, byteOfBits (fieldBits 8 n) = UInt8.ofNat n := by decide +kernel
  have same := all b.toNat b.toNat_lt
  rwa [UInt8.ofNat_toNat] at same

theorem bitsOfByte_byteOfBits :
    ∀ a b c d e f g h : Bool,
      bitsOfByte (byteOfBits [a, b, c, d, e, f, g, h]) = [a, b, c, d, e, f, g, h] := by
  decide +kernel

theorem bytesOfBits_append (bytes : Bytes) (rest : List Bool) :
    bytesOfBits (bitsOfBytes bytes ++ rest) = bytes ++ bytesOfBits rest := by
  induction bytes with
  | nil => rfl
  | cons b bytes ih =>
    have single : bytesOfBits (bitsOfByte b ++ (bitsOfBytes bytes ++ rest)) =
      byteOfBits (bitsOfByte b) :: bytesOfBits (bitsOfBytes bytes ++ rest) := rfl
    rw [bitsOfBytes_cons, List.append_assoc, single, byteOfBits_bitsOfByte, ih, List.cons_append]

theorem bytesOfBits_bitsOfBytes (bytes : Bytes) : bytesOfBits (bitsOfBytes bytes) = bytes := by
  have whole := bytesOfBits_append bytes []
  rwa [List.append_nil, bytesOfBits_nil, List.append_nil] at whole

theorem bitsOfBytes_bytesOfBits (whole : bits.length % 8 = 0) :
    bitsOfBytes (bytesOfBits bits) = bits := by
  fun_induction bytesOfBits bits with
  | case1 a b c d e f g h rest ih =>
    have later : rest.length % 8 = 0 := by
      simp only [List.length_cons] at whole
      omega
    rw [bitsOfBytes_cons, bitsOfByte_byteOfBits, ih later]
    rfl
  | case2 bits few =>
    match bits with
    | [] => rfl
    | [_] | [_, _] | [_, _, _] | [_, _, _, _] | [_, _, _, _, _] | [_, _, _, _, _, _]
    | [_, _, _, _, _, _, _] => simp at whole
    | a :: b :: c :: d :: e :: f :: g :: h :: rest => exact (few a b c d e f g h rest rfl).elim

namespace Stream

/-- The stream that holds the given bits, of which those before the last whole byte are begun. -/
def ofBits (bits : List Bool) : Stream :=
  ⟨bits.take (bits.length % 8), bytesOfBits (bits.drop (bits.length % 8))⟩

theorem ofBits_append (begun : first.length < 8) (whole : rest.length % 8 = 0) :
    ofBits (first ++ rest) = ⟨first, bytesOfBits rest⟩ := by
  have count : (first ++ rest).length % 8 = first.length := by
    rw [List.length_append]
    omega
  rw [ofBits, count, List.take_left, List.drop_left]

theorem ofBits_of_whole (whole : rest.length % 8 = 0) : ofBits rest = ⟨[], bytesOfBits rest⟩ :=
  ofBits_append (by decide : [].length < 8) whole

theorem ofBits_bitsOfBytes (bytes : Bytes) : ofBits (bitsOfBytes bytes) = ofBytes bytes := by
  have whole : (bitsOfBytes bytes).length % 8 = 0 := by simp
  rw [ofBits_of_whole whole, bytesOfBits_bitsOfBytes]
  rfl

theorem exists_begun (bits : List Bool) :
    ∃ first rest, bits = first ++ rest ∧ first.length < 8 ∧ rest.length % 8 = 0 := by
  have count := Nat.mod_le bits.length 8
  refine ⟨bits.take (bits.length % 8), bits.drop (bits.length % 8), ?_, ?_, ?_⟩
  · exact (List.take_append_drop _ _).symm
  · rw [List.length_take]
    omega
  · rw [List.length_drop]
    omega

theorem next_ofBits (bit : Bool) (bits : List Bool) :
    (ofBits (bit :: bits)).next = .ok (bit, ofBits bits) := by
  obtain ⟨first, rest, rfl, begun, whole⟩ := exists_begun bits
  rw [ofBits_append begun whole]
  by_cases full : first.length = 7
  · -- The bit is the first of a byte, which is begun with it.
    match first, full with
    | [b, c, d, e, f, g, h], _ =>
      have byte : (bit :: [b, c, d, e, f, g, h] ++ rest).length % 8 = 0 := by
        simp only [List.length_append, List.length_cons, List.length_nil]
        omega
      rw [← List.cons_append, ofBits_of_whole byte]
      change Stream.next ⟨[], byteOfBits [bit, b, c, d, e, f, g, h] :: bytesOfBits rest⟩ = _
      rw [next]
      simp only [bitsOfByte_byteOfBits]
  · have more : (bit :: first).length < 8 := by
      rw [List.length_cons]
      omega
    rw [← List.cons_append, ofBits_append more whole]
    rfl

theorem field_ofBits (width n : Nat) (rest : List Bool) :
    (ofBits (fieldBits width n ++ rest)).field width = .ok (n % Nat.pow 2 width, ofBits rest) := by
  induction width generalizing n with
  | zero =>
    have none : n % Nat.pow 2 0 = 0 := Nat.mod_one n
    rw [none]
    rfl
  | succ width ih =>
    have low : (n.testBit 0).toNat = n % 2 := by
      rw [Nat.testBit_zero]
      rcases Nat.mod_two_eq_zero_or_one n with even | odd
      · simp [even]
      · simp [odd]
    have double : Nat.pow 2 (width + 1) = 2 * Nat.pow 2 width := Nat.mul_comm _ 2
    have value : n % Nat.pow 2 (width + 1) = n % 2 + 2 * (n / 2 % Nat.pow 2 width) := by
      rw [double, Nat.mod_mul]
    rw [fieldBits_succ, List.cons_append, field, next_ofBits]
    simp only [bind, Except.bind, ih, value, low]

theorem aligned_ofBits (begun : first.length < 8) (whole : rest.length % 8 = 0) :
    (ofBits (first ++ rest)).aligned = ofBits rest := by
  rw [ofBits_append begun whole, ofBits_of_whole whole]
  rfl

theorem takeBytes_ofBits (bytes : Bytes) (whole : rest.length % 8 = 0) :
    (ofBits (bitsOfBytes bytes ++ rest)).takeBytes bytes.length = .ok (bytes, ofBits rest) := by
  have all : (bitsOfBytes bytes ++ rest).length % 8 = 0 := by
    rw [List.length_append, length_bitsOfBytes]
    omega
  rw [ofBits_of_whole all, ofBits_of_whole whole, bytesOfBits_append, takeBytes]
  simp

end Stream

end DocBrowser.Gzip
