import DocBrowser.Text.Utf8

/-!
Reading and writing the byte form of texts are inverse to one another. A character of several bytes
is a first byte, which bounds its number, and then six bits of its number at a time.
-/

namespace DocBrowser.Utf8

/-- A number without its last `count` groups of six bits. -/
def upper (n : Nat) : Nat → Nat
  | 0 => n
  | count + 1 => upper n count / 0x40

/-- The last bytes of the form of the character with number `n`. -/
def following (n : Nat) : Nat → Bytes
  | 0 => []
  | count + 1 => UInt8.ofNat (0x80 + upper n count % 0x40) :: following n count

/-- The bytes read so far are those of the character with number `n`, and the next one is too. -/
structure Begun.Fits (part : Begun) (n count : Nat) : Prop where
  following_eq : part.following = count + 1
  bits_eq : part.bits = upper n (count + 1)
  low_le : part.low ≤ 0x80 + upper n count % 0x40
  le_high : 0x80 + upper n count % 0x40 ≤ part.high

theorem toNat_ofNat_of_short {n : Nat} (short : n < 0x80) : (UInt8.ofNat n).toNat = n :=
  UInt8.toNat_ofNat_of_lt' (Nat.lt_trans short (by decide))

theorem toNat_next (n count : Nat) :
    (UInt8.ofNat (0x80 + upper n count % 0x40)).toNat = 0x80 + upper n count % 0x40 := by
  rw [UInt8.toNat_ofNat']
  omega

/-- The rest of a character completes it. -/
theorem read_following {part : Begun} {n count : Nat} (fits : part.Fits n count) (done : Text)
    (rest : Bytes) :
    read (some part) done (following n (count + 1) ++ rest) =
      read none (Char.ofNat n :: done) rest := by
  induction count generalizing part with
  | zero =>
    obtain ⟨last, bits, low, high⟩ := fits
    have number : part.bits * 0x40 + (0x80 + upper n 0 % 0x40 - 0x80) = n := by
      simp only [bits, upper]
      omega
    rw [following, List.cons_append, read, toNat_next, if_pos ⟨low, high⟩, if_pos last, number]
    rfl
  | succ count ih =>
    obtain ⟨more, bits, low, high⟩ := fits
    rw [following, List.cons_append, read, toNat_next, if_pos ⟨low, high⟩, if_neg (by omega)]
    apply ih
    constructor
    · simp [more]
    · simp only [bits, upper]
      omega
    · simp
    · simp only
      omega

/-- The first bytes by the number of bytes that follow them. -/
theorem begun?_eq (b : Nat) :
    begun? b =
      if b < 0xC2 then none
      else if b < 0xE0 then some { bits := b - 0xC0, following := 1 }
      else if b < 0xF0 then
        some { bits := b - 0xE0, following := 2, low := if b = 0xE0 then 0xA0 else 0x80,
               high := if b = 0xED then 0x9F else 0xBF }
      else if b < 0xF5 then
        some { bits := b - 0xF0, following := 3, low := if b = 0xF0 then 0x90 else 0x80,
               high := if b = 0xF4 then 0x8F else 0xBF }
      else none := by
  unfold begun?
  grind

theorem regular_of_begun? {b : Nat} {part : Begun} (first : begun? b = some part) :
    ∃ count, part.following = count + 1 ∧ 0x80 ≤ part.low ∧ part.high ≤ 0xBF := by
  rw [begun?_eq] at first
  split at first
  · cases first
  split at first
  · cases first
    exact ⟨0, rfl, Nat.le_refl _, Nat.le_refl _⟩
  split at first
  · cases first
    exact ⟨1, rfl, by simp only; split <;> omega, by simp only; split <;> omega⟩
  split at first
  · cases first
    exact ⟨2, rfl, by simp only; split <;> omega, by simp only; split <;> omega⟩
  · cases first

theorem toNat_charOfNat {n : Nat} (valid : n.isValidChar) : (Char.ofNat n).toNat = n := by
  rw [Char.ofNat, dif_pos valid]
  rfl

theorem toNat_charOfNat_of_short {n : Nat} (short : n < 0x80) : (Char.ofNat n).toNat = n :=
  toNat_charOfNat (.inl (Nat.lt_trans short (by decide)))

theorem encodeChar_of_lt {c : Char} (short : c.toNat < 0x80) :
    encodeChar c = [UInt8.ofNat c.toNat] := by
  simp [encodeChar, short]

/-- A byte of its own is the form of the character with its number. -/
theorem encodeChar_charOfNat {b : UInt8} (short : b.toNat < 0x80) :
    encodeChar (Char.ofNat b.toNat) = [b] := by
  have same := toNat_charOfNat_of_short short
  rw [encodeChar_of_lt (Nat.lt_of_le_of_lt (Nat.le_of_eq same) short), same, UInt8.ofNat_toNat]

theorem encodeChar_of_lt_two {c : Char} (long : 0x80 ≤ c.toNat) (short : c.toNat < 0x800) :
    encodeChar c = UInt8.ofNat (0xC0 + upper c.toNat 1) :: following c.toNat 1 := by
  simp only [encodeChar, if_neg (Nat.not_lt.mpr long), if_pos short]
  rfl

theorem encodeChar_of_lt_three {c : Char} (long : 0x800 ≤ c.toNat) (short : c.toNat < 0x10000) :
    encodeChar c = UInt8.ofNat (0xE0 + upper c.toNat 2) :: following c.toNat 2 := by
  have longer : ¬ c.toNat < 0x80 := by omega
  simp only [encodeChar, if_neg longer, if_neg (Nat.not_lt.mpr long), if_pos short]
  simp [following, upper, Nat.div_div_eq_div_mul]

theorem encodeChar_of_ge {c : Char} (long : 0x10000 ≤ c.toNat) :
    encodeChar c = UInt8.ofNat (0xF0 + upper c.toNat 3) :: following c.toNat 3 := by
  have longer : ¬ c.toNat < 0x80 := by omega
  have longest : ¬ c.toNat < 0x800 := by omega
  simp only [encodeChar, if_neg longer, if_neg longest, if_neg (Nat.not_lt.mpr long)]
  simp [following, upper, Nat.div_div_eq_div_mul]

/-- A first byte and bytes that fit it are the form of a character. -/
theorem encodeChar_of_fits {b : UInt8} {part : Begun} {n count : Nat}
    (first : begun? b.toNat = some part) (fits : part.Fits n count) :
    n.isValidChar ∧ encodeChar (Char.ofNat n) = b :: following n (count + 1) := by
  obtain ⟨last, bits, low, high⟩ := fits
  have same : ∀ m, m = b.toNat → UInt8.ofNat m = b := by
    rintro _ rfl
    exact UInt8.ofNat_toNat
  rw [begun?_eq] at first
  split at first
  · cases first
  split at first
  · cases first
    obtain rfl : count = 0 := by simpa using last.symm
    simp only [upper] at bits low high
    have bounds : 0x80 ≤ n ∧ n < 0x800 := by omega
    have valid : n.isValidChar := by
      unfold Nat.isValidChar
      omega
    have written := @encodeChar_of_lt_two (Char.ofNat n)
    rw [toNat_charOfNat valid] at written
    rw [written bounds.1 bounds.2, same]
    · exact ⟨valid, rfl⟩
    · simp only [upper]
      omega
  split at first
  · cases first
    obtain rfl : count = 1 := by simpa using last.symm
    simp only [upper] at bits low high
    have bounds : 0x800 ≤ n ∧ n < 0x10000 := by split at low <;> omega
    have valid : n.isValidChar := by
      unfold Nat.isValidChar
      split at high <;> omega
    have written := @encodeChar_of_lt_three (Char.ofNat n)
    rw [toNat_charOfNat valid] at written
    rw [written bounds.1 bounds.2, same]
    · exact ⟨valid, rfl⟩
    · simp only [upper]
      omega
  split at first
  · cases first
    obtain rfl : count = 2 := by simpa using last.symm
    simp only [upper] at bits low high
    have bounds : 0x10000 ≤ n := by split at low <;> omega
    have valid : n.isValidChar := by
      unfold Nat.isValidChar
      split at high <;> omega
    have written := @encodeChar_of_ge (Char.ofNat n)
    rw [toNat_charOfNat valid] at written
    rw [written bounds, same]
    · exact ⟨valid, rfl⟩
    · simp only [upper]
      omega
  · cases first

/-- A character of several bytes is a first byte and bytes that fit it. -/
theorem exists_first {c : Char} (long : 0x80 ≤ c.toNat) :
    ∃ b part count, encodeChar c = b :: following c.toNat (count + 1) ∧ 0x80 ≤ b.toNat ∧
      begun? b.toNat = some part ∧ part.Fits c.toNat count := by
  have valid : c.toNat.isValidChar := c.valid
  unfold Nat.isValidChar at valid
  by_cases two : c.toNat < 0x800
  · have bounds : 0xC2 ≤ 0xC0 + upper c.toNat 1 ∧ 0xC0 + upper c.toNat 1 < 0xE0 := by
      simp only [upper]
      omega
    have first : (UInt8.ofNat (0xC0 + upper c.toNat 1)).toNat = 0xC0 + upper c.toNat 1 :=
      UInt8.toNat_ofNat_of_lt' (Nat.lt_trans bounds.2 (by decide))
    have begun := begun?_eq (0xC0 + upper c.toNat 1)
    rw [if_neg (by omega), if_pos (by omega)] at begun
    refine ⟨_, _, 0, encodeChar_of_lt_two long two, by omega, (congrArg begun? first).trans begun, ?_⟩
    constructor <;> simp only [upper] <;> omega
  by_cases three : c.toNat < 0x10000
  · have bounds : 0xE0 ≤ 0xE0 + upper c.toNat 2 ∧ 0xE0 + upper c.toNat 2 < 0xF0 := by
      simp only [upper]
      omega
    have first : (UInt8.ofNat (0xE0 + upper c.toNat 2)).toNat = 0xE0 + upper c.toNat 2 :=
      UInt8.toNat_ofNat_of_lt' (Nat.lt_trans bounds.2 (by decide))
    have begun := begun?_eq (0xE0 + upper c.toNat 2)
    rw [if_neg (by omega), if_neg (by omega), if_pos (by omega)] at begun
    refine ⟨_, _, 1, encodeChar_of_lt_three (by omega) three, by omega,
      (congrArg begun? first).trans begun, ?_⟩
    constructor
    · rfl
    · simp [upper]
    · simp only
      split <;> simp only [upper] at * <;> omega
    · simp only
      split <;> simp only [upper] at * <;> omega
  · have bounds : 0xF0 ≤ 0xF0 + upper c.toNat 3 ∧ 0xF0 + upper c.toNat 3 < 0xF5 := by
      simp only [upper]
      omega
    have first : (UInt8.ofNat (0xF0 + upper c.toNat 3)).toNat = 0xF0 + upper c.toNat 3 :=
      UInt8.toNat_ofNat_of_lt' (Nat.lt_trans bounds.2 (by decide))
    have begun := begun?_eq (0xF0 + upper c.toNat 3)
    rw [if_neg (by omega), if_neg (by omega), if_neg (by omega), if_pos (by omega)] at begun
    refine ⟨_, _, 2, encodeChar_of_ge (by omega), by omega,
      (congrArg begun? first).trans begun, ?_⟩
    constructor
    · rfl
    · simp [upper]
    · simp only
      split <;> simp only [upper] at * <;> omega
    · simp only
      split <;> simp only [upper] at * <;> omega

/-- The form of a character is read as that character. -/
theorem read_encodeChar (c : Char) (done : Text) (rest : Bytes) :
    read none done (encodeChar c ++ rest) = read none (c :: done) rest := by
  by_cases short : c.toNat < 0x80
  · rw [encodeChar_of_lt short, List.singleton_append, read]
    simp only [toNat_ofNat_of_short short, if_pos short, Char.ofNat_toNat]
  · obtain ⟨b, part, count, written, long, first, fits⟩ := exists_first (Nat.le_of_not_lt short)
    rw [written, List.cons_append, read]
    simp only [if_neg (Nat.not_lt.mpr long), first]
    rw [read_following fits, Char.ofNat_toNat]

theorem read_encode (done text : Text) :
    read none done (encode text) = .ok (done.reverse ++ text) := by
  induction text generalizing done with
  | nil => simp [encode, read]
  | cons c rest ih =>
    have split : encode (c :: rest) = encodeChar c ++ encode rest := List.flatMap_cons
    rw [split, read_encodeChar, ih]
    simp

/-- What is read after the beginning of a character completes it. -/
theorem exists_following {part : Begun} {count : Nat} {done text : Text} {bytes : Bytes}
    (more : part.following = count + 1) (low : 0x80 ≤ part.low) (high : part.high ≤ 0xBF)
    (success : read (some part) done bytes = .ok text) :
    ∃ n rest, part.Fits n count ∧ bytes = following n (count + 1) ++ rest ∧
      read none (Char.ofNat n :: done) rest = .ok text := by
  induction count generalizing part bytes with
  | zero =>
    cases bytes with
    | nil => cases success
    | cons b rest =>
      rw [read] at success
      split at success
      · next inside =>
        refine ⟨_, rest, ⟨more, ?_, ?_, ?_⟩, ?_, success⟩
        · simp only [upper]
          omega
        · simp only [upper]
          omega
        · simp only [upper]
          omega
        · have same : 0x80 + (part.bits * 0x40 + (b.toNat - 0x80)) % 0x40 = b.toNat := by omega
          rw [following, upper, same, UInt8.ofNat_toNat]
          rfl
      · cases success
  | succ count ih =>
    cases bytes with
    | nil => cases success
    | cons b rest =>
      rw [read] at success
      split at success
      · next inside =>
        rw [if_neg (by omega)] at success
        obtain ⟨n, later, fits, rfl, next⟩ :=
          ih (by simp [more]) (Nat.le_refl _) (Nat.le_refl _) success
        have bits := fits.bits_eq
        simp only at bits
        have same : 0x80 + upper n (count + 1) % 0x40 = b.toNat := by omega
        have last : following n (count + 2) = b :: following n (count + 1) := by
          rw [following, same, UInt8.ofNat_toNat]
        refine ⟨n, later, ⟨more, ?_, ?_, ?_⟩, ?_, next⟩
        · rw [upper]
          omega
        · omega
        · omega
        · rw [last, List.cons_append]
      · cases success

/-- What is read as a text is the form of that text. -/
theorem encode_of_read {done text : Text} {bytes : Bytes}
    (success : read none done bytes = .ok text) :
    ∃ rest, text = done.reverse ++ rest ∧ encode rest = bytes := by
  -- On the number of bytes and not on their list, because a character can take several of them.
  induction length : bytes.length using Nat.strongRecOn generalizing bytes done with
  | ind size ih =>
    cases bytes with
    | nil =>
      cases success
      exact ⟨[], by simp, rfl⟩
    | cons b rest =>
      rw [read] at success
      split at success
      · next short =>
        obtain ⟨later, rfl, written⟩ := ih rest.length (by simp [← length]) success rfl
        refine ⟨Char.ofNat b.toNat :: later, by simp, ?_⟩
        rw [encode, List.flatMap_cons, encodeChar_charOfNat short, ← encode, written]
        rfl
      · next long =>
        split at success
        · next part first =>
          obtain ⟨count, more, low, high⟩ := regular_of_begun? first
          obtain ⟨n, later, fits, rfl, next⟩ := exists_following more low high success
          have shorter : later.length < size := by
            simp only [← length, List.length_cons, List.length_append]
            omega
          obtain ⟨last, rfl, written⟩ := ih later.length shorter next rfl
          refine ⟨Char.ofNat n :: last, by simp, ?_⟩
          rw [encode, List.flatMap_cons, (encodeChar_of_fits first fits).2, ← encode, written]
          rfl
        · cases success

/-- The bytes that stand for a text are its form, and no other bytes do. -/
theorem decode?_eq_some_iff {bytes : Bytes} {text : Text} :
    decode? bytes = some text ↔ encode text = bytes := by
  have meaning : decode? bytes = (read none [] bytes).toOption := by
    rw [decode?, decode]
    cases read none [] bytes <;> rfl
  rw [meaning]
  constructor
  · intro success
    cases outcome : read none [] bytes with
    | error fault => simp [outcome, Except.toOption] at success
    | ok read =>
      obtain rfl : read = text := by
        simpa [outcome, Except.toOption] using success
      obtain ⟨rest, rfl, written⟩ := encode_of_read outcome
      exact written
  · rintro rfl
    simp [read_encode, Except.toOption]

theorem decode?_encode (text : Text) : decode? (encode text) = some text :=
  decode?_eq_some_iff.mpr rfl

theorem le_of_mem_following {n count : Nat} {b : UInt8} (member : b ∈ following n count) :
    0x80 ≤ b.toNat := by
  induction count with
  | zero => cases member
  | succ count ih =>
    rcases List.mem_cons.mp member with rfl | later
    · rw [toNat_next]
      omega
    · exact ih later

/-- Characters of several bytes have none of the bytes of the others. -/
theorem le_of_mem_encodeChar {c : Char} {b : UInt8} (long : 0x80 ≤ c.toNat)
    (member : b ∈ encodeChar c) : 0x80 ≤ b.toNat := by
  obtain ⟨first, part, count, written, high, _⟩ := exists_first long
  rw [written] at member
  rcases List.mem_cons.mp member with rfl | later
  · exact high
  · exact le_of_mem_following later

theorem encodeChar_ne_nil (c : Char) : encodeChar c ≠ [] := by
  by_cases short : c.toNat < 0x80
  · simp [encodeChar_of_lt short]
  · obtain ⟨first, part, count, written, _⟩ := exists_first (Nat.le_of_not_lt short)
    simp [written]

@[simp]
theorem encode_cons (c : Char) (text : Text) : encode (c :: text) = encodeChar c ++ encode text :=
  List.flatMap_cons

@[simp]
theorem encode_append (first rest : Text) : encode (first ++ rest) = encode first ++ encode rest :=
  List.flatMap_append

theorem encode_eq_nil_iff {text : Text} : encode text = [] ↔ text = [] := by
  cases text with
  | nil => simp [encode]
  | cons c rest => simp [encodeChar_ne_nil]

theorem length_le_length_encode (text : Text) : text.length ≤ (encode text).length := by
  induction text with
  | nil => simp
  | cons c rest ih =>
    have first := List.length_pos_iff.mpr (encodeChar_ne_nil c)
    rw [encode_cons, List.length_append, List.length_cons]
    omega

theorem encode_injective {first second : Text} (same : encode first = encode second) :
    first = second := by
  have read := decode?_encode first
  rw [same, decode?_encode] at read
  exact (Option.some.inj read).symm

/-! How many bytes a text has. -/

def byteCount (text : Text) : Nat := (encode text).length

@[simp]
theorem byteCount_nil : byteCount [] = 0 := rfl

@[simp]
theorem byteCount_append (first rest : Text) :
    byteCount (first ++ rest) = byteCount first + byteCount rest := by
  simp [byteCount]

theorem byteCount_cons (c : Char) (rest : Text) :
    byteCount (c :: rest) = byteCount [c] + byteCount rest :=
  byteCount_append [c] rest

/-! The byte form is that of the library, and so is what counts as the form of a text. -/

theorem encodeChar_eq (c : Char) : encodeChar c = String.utf8EncodeChar c := by
  have valid : c.toNat.isValidChar := c.valid
  unfold Nat.isValidChar at valid
  have number : c.val.toNat = c.toNat := rfl
  simp only [encodeChar, String.utf8EncodeChar, number]
  split
  · rw [if_pos (by omega)]
  split
  · have first : c.toNat / 0x40 < 0x20 := by omega
    rw [if_neg (by omega), if_pos (by omega), Nat.mod_eq_of_lt first]
    simp only [Nat.add_comm]
  split
  · have first : c.toNat / 0x1000 < 0x10 := by omega
    rw [if_neg (by omega), if_neg (by omega), if_pos (by omega), Nat.mod_eq_of_lt first]
    simp only [Nat.add_comm]
  · have first : c.toNat / 0x40000 < 0x8 := by omega
    rw [if_neg (by omega), if_neg (by omega), if_neg (by omega), Nat.mod_eq_of_lt first]
    simp only [Nat.add_comm]

theorem utf8Encode_eq (text : Text) : text.utf8Encode = (encode text).toByteArray := by
  rw [List.utf8Encode, encode, funext encodeChar_eq]

theorem isValidUTF8_iff {bytes : Bytes} :
    bytes.toByteArray.IsValidUTF8 ↔ ∃ text, encode text = bytes := by
  constructor
  · rintro ⟨text, same⟩
    rw [utf8Encode_eq, List.toByteArray_inj] at same
    exact ⟨text, same.symm⟩
  · rintro ⟨text, rfl⟩
    exact ⟨text, (utf8Encode_eq text).symm⟩

/-! Where characters begin. -/

theorem lt_of_mem_following {n count : Nat} {b : UInt8} (member : b ∈ following n count) :
    b.toNat < 0xC0 := by
  induction count with
  | zero => cases member
  | succ count ih =>
    rcases List.mem_cons.mp member with rfl | later
    · rw [toNat_next]
      omega
    · exact ih later

/-- The first byte of a character is not like any byte after it. -/
theorem first_byte {c : Char} {b : UInt8} {rest : Bytes} (written : encodeChar c = b :: rest) :
    (b.toNat < 0x80 ∨ 0xC0 ≤ b.toNat) ∧ ∀ later ∈ rest, 0x80 ≤ later.toNat ∧ later.toNat < 0xC0 := by
  by_cases short : c.toNat < 0x80
  · rw [encodeChar_of_lt short] at written
    cases written
    rw [toNat_ofNat_of_short short]
    exact ⟨.inl short, fun _ there => absurd there List.not_mem_nil⟩
  · obtain ⟨first, part, count, spelled, _, begun, _⟩ := exists_first (Nat.le_of_not_lt short)
    rw [spelled] at written
    cases written
    refine ⟨.inr ?_, fun later there => ⟨le_of_mem_following there, lt_of_mem_following there⟩⟩
    rw [begun?_eq] at begun
    split at begun
    · cases begun
    · omega

/-- The byte form of a character within that of a text is where the character is in the text. -/
theorem exists_of_encode_eq {text : Text} {c : Char} {front more : Bytes}
    (written : encode text = front ++ (encodeChar c ++ more)) :
    ∃ before after, text = before ++ c :: after ∧ encode before = front ∧ encode after = more := by
  induction text generalizing front with
  | nil =>
    have none := (List.append_eq_nil_iff.mp (List.append_eq_nil_iff.mp written.symm).2).1
    exact absurd none (encodeChar_ne_nil c)
  | cons a text ih =>
    cases front with
    | nil =>
      have read := read_encode [] (a :: text)
      rw [written, List.nil_append, read_encodeChar] at read
      obtain ⟨after, same, later⟩ := encode_of_read read
      exact ⟨[], after, same, rfl, later⟩
    | cons b front =>
      rw [encode_cons] at written
      rcases List.append_eq_append_iff.mp written with ⟨others, own, next⟩ | ⟨others, own, next⟩
      · obtain ⟨before, after, rfl, first, last⟩ := ih next
        exact ⟨a :: before, after, rfl, by rw [encode_cons, first, own], last⟩
      · cases others with
        | nil =>
          have empty : encode text = [] ++ (encodeChar c ++ more) := by simpa using next.symm
          obtain ⟨before, after, rfl, first, last⟩ := ih empty
          refine ⟨a :: before, after, rfl, ?_, last⟩
          rw [encode_cons, first, own, List.append_nil, List.append_nil]
        | cons d others =>
          -- A byte inside the first character cannot begin another one.
          obtain ⟨e, rest, first⟩ := List.exists_cons_of_ne_nil (encodeChar_ne_nil c)
          have inside := (first_byte own).2 d (by simp)
          have begins := (first_byte first).1
          rw [first] at next
          obtain rfl : e = d := (List.cons.inj next).1
          omega

/-- Bytes of their own stand for characters wherever they are. -/
theorem exists_of_encode_eq_cons {text : Text} {b : UInt8} {more : Bytes} (short : b.toNat < 0x80)
    (written : encode text = b :: more) :
    ∃ after, text = Char.ofNat b.toNat :: after ∧ encode after = more := by
  have first : encode text = [] ++ (encodeChar (Char.ofNat b.toNat) ++ more) := by
    rw [written, encodeChar_charOfNat short]
    rfl
  obtain ⟨before, after, rfl, nothing, last⟩ := exists_of_encode_eq first
  obtain rfl := encode_eq_nil_iff.mp nothing
  exact ⟨after, rfl, last⟩

end DocBrowser.Utf8
