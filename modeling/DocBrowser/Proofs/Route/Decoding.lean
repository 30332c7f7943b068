import DocBrowser.Proofs.Route.Percent

/-!
The text that a segment is decoded to, by the escapes that stand in it. No escape begins inside
another one, so each is replaced, once, wherever it stands, and a percent sign that begins none is
kept. Bytes that are no text are given up as a whole.
-/

namespace DocBrowser

namespace Hexadecimal

/-- The character is the hexadecimal digit of a value, of either case. -/
def Denotes (c : Char) (value : Nat) : Prop :=
  value < 16 ∧ (c = Nat.digitChar value ∨ c = (Nat.digitChar value).toUpper)

instance (c : Char) (value : Nat) : Decidable (Denotes c value) :=
  inferInstanceAs (Decidable (value < 16 ∧ _))

/-- Characters that follow one another, by their distance from the first. -/
theorem eq_of_row {c : Char} {first count : Nat} {digit : Nat → Char}
    (row : ∀ n < count, Char.ofNat (first + n) = digit n) (least : first ≤ c.toNat)
    (among : c.toNat - first < count) : c = digit (c.toNat - first) := by
  rw [← row _ among, Nat.add_sub_cancel' least, Char.ofNat_toNat]

theorem digit?_eq_some_iff {c : Char} {value : Nat} :
    digit? c.toNat = some value ↔ Denotes c value := by
  constructor
  · intro digit
    unfold digit? at digit
    split at digit
    · next decimal =>
      cases digit
      have row : ∀ n < 10, Char.ofNat (0x30 + n) = Nat.digitChar n := by decide
      exact ⟨by omega, .inl (eq_of_row row decimal.1 (by omega))⟩
    split at digit
    · next upper =>
      cases digit
      have row : ∀ n < 6, Char.ofNat (0x41 + n) = (Nat.digitChar (n + 10)).toUpper := by decide
      have same := eq_of_row row upper.1 (by omega)
      have shifted : c.toNat - 0x41 + 10 = c.toNat - 0x37 := by omega
      exact ⟨by omega, .inr (shifted ▸ same)⟩
    split at digit
    · next lower =>
      cases digit
      have row : ∀ n < 6, Char.ofNat (0x61 + n) = Nat.digitChar (n + 10) := by decide
      have same := eq_of_row row lower.1 (by omega)
      have shifted : c.toNat - 0x61 + 10 = c.toNat - 0x57 := by omega
      exact ⟨by omega, .inl (shifted ▸ same)⟩
    · cases digit
  · have either : ∀ n < 16, digit? (Nat.digitChar n).toNat = some n ∧
        digit? (Nat.digitChar n).toUpper.toNat = some n := by decide
    rintro ⟨small, rfl | rfl⟩
    · exact (either value small).1
    · exact (either value small).2

end Hexadecimal

namespace Percent

open Hexadecimal (Denotes)

/-- A percent sign and two hexadecimal digits, which write a byte. -/
inductive IsEscape (b : UInt8) : Text → Prop
  | digits {high low : Char} {h l : Nat} : Denotes high h → Denotes low l →
      b.toNat = h * 16 + l → IsEscape b ['%', high, low]

/-- An escape stands at the beginning of the text. -/
def BeginsEscape (text : Text) : Prop :=
  ∃ b escape after, IsEscape b escape ∧ text = escape ++ after

/-- An escape stands somewhere in the text. -/
def HasEscape (text : Text) : Prop :=
  ∃ before after, text = before ++ after ∧ BeginsEscape after

/-- The bytes of a text with its escapes replaced from left to right. What begins no escape keeps
its bytes. -/
inductive Unescapes : Text → Bytes → Prop
  | nil : Unescapes [] []
  | escape {b : UInt8} {escape text : Text} {bytes : Bytes} : IsEscape b escape →
      Unescapes text bytes → Unescapes (escape ++ text) (b :: bytes)
  | kept {c : Char} {text : Text} {bytes : Bytes} : ¬ BeginsEscape (c :: text) →
      Unescapes text bytes → Unescapes (c :: text) (Utf8.encodeChar c ++ bytes)

/-- Bytes written one by one, each as an escape or as the character that it is alone. The percent
sign is escaped, and so is every byte of a longer character. -/
inductive Encodes : Bytes → Text → Prop
  | nil : Encodes [] []
  | kept {c : Char} {bytes : Bytes} {written : Text} : c.toNat < 0x80 → c ≠ '%' →
      Encodes bytes written → Encodes (UInt8.ofNat c.toNat :: bytes) (c :: written)
  | escaped {b : UInt8} {escape written : Text} {bytes : Bytes} : IsEscape b escape →
      Encodes bytes written → Encodes (b :: bytes) (escape ++ written)

variable {segment text written escape after : Text} {bytes : Bytes} {b : UInt8}

/-! Escapes and percent signs that begin none. -/

theorem IsEscape.exists_cons (isEscape : IsEscape b escape) :
    ∃ high low, escape = ['%', high, low] := by
  cases isEscape
  exact ⟨_, _, rfl⟩

theorem IsEscape.spells (isEscape : IsEscape b escape) : Spells [b] (Utf8.encode escape) := by
  cases isEscape with
  | digits high low value =>
    have escapes : Escapes [b] _ :=
      .cons (Hexadecimal.digit?_eq_some_iff.mpr high) (Hexadecimal.digit?_eq_some_iff.mpr low)
        value .nil
    exact escapes.spells

theorem denotes_of_digit? {n value : Nat} (digit : Hexadecimal.digit? n = some value) :
    Denotes (Char.ofNat n) value := by
  rwa [← Hexadecimal.digit?_eq_some_iff,
    Utf8.toNat_charOfNat_of_short (digit?_bounds digit).1]

/-- Two bytes that are digits come from two characters that are digits. -/
theorem beginsEscape_of_byte? {high low : UInt8} {rest : Bytes}
    (byte : Hexadecimal.byte? high low = some b) (spelled : Utf8.encode after = high :: low :: rest) :
    BeginsEscape ('%' :: after) := by
  unfold Hexadecimal.byte? at byte
  split at byte
  · next h l highDigit lowDigit =>
    cases byte
    obtain ⟨highShort, highBound⟩ := digit?_bounds highDigit
    obtain ⟨lowShort, lowBound⟩ := digit?_bounds lowDigit
    obtain ⟨later, rfl, next⟩ := Utf8.exists_of_encode_eq_cons highShort spelled
    obtain ⟨last, rfl, _⟩ := Utf8.exists_of_encode_eq_cons lowShort next
    have value : (UInt8.ofNat (h * 16 + l)).toNat = h * 16 + l := by
      rw [UInt8.toNat_ofNat']
      omega
    have isEscape := IsEscape.digits (denotes_of_digit? highDigit) (denotes_of_digit? lowDigit) value
    exact ⟨_, _, last, isEscape, rfl⟩
  · cases byte

theorem decodeBytes_sign_of_stray (stray : ¬ BeginsEscape ('%' :: after)) :
    decodeBytes (sign :: Utf8.encode after) = sign :: decodeBytes (Utf8.encode after) := by
  apply decodeBytes_cons_of_kept
  intro high low more _ spelled
  cases byte : Hexadecimal.byte? high low with
  | none => rfl
  | some b => exact absurd (beginsEscape_of_byte? byte spelled) stray

/-- A percent sign is no digit, so whatever stands before it is decoded on its own. -/
theorem decodeBytes_append_sign (front rest : Bytes) :
    decodeBytes (front ++ sign :: rest) = decodeBytes front ++ decodeBytes (sign :: rest) := by
  have single : ∀ b, decodeBytes (b :: sign :: rest) = b :: decodeBytes (sign :: rest) := by
    intro b
    apply decodeBytes_cons_of_kept
    rintro high low more _ ⟨⟩
    rfl
  fun_induction decodeBytes front with
  | case1 => rfl
  | case2 b => exact single b
  | case3 b c =>
    have kept : decodeBytes (b :: c :: sign :: rest) = b :: decodeBytes (c :: sign :: rest) := by
      apply decodeBytes_cons_of_kept
      rintro high low more _ ⟨⟩
      unfold Hexadecimal.byte?
      cases Hexadecimal.digit? c.toNat <;> rfl
    exact kept.trans (congrArg _ (single c))
  | case4 high low more byte escaped ih =>
    simp only [List.cons_append, decodeBytes, if_true, escaped, ih]
  | case5 high low more plain ih =>
    simp only [List.cons_append, decodeBytes, if_true, plain, ← ih]
  | case6 b high low more plain ih =>
    rw [List.cons_append, decodeBytes_cons_of_ne plain, ih, List.cons_append]

/-- What begins no escape keeps its bytes. -/
theorem decodeBytes_encode_of_kept {c : Char} (kept : ¬ BeginsEscape (c :: text)) :
    decodeBytes (Utf8.encode (c :: text)) = Utf8.encodeChar c ++ decodeBytes (Utf8.encode text) := by
  rw [Utf8.encode_cons]
  by_cases percent : c = '%'
  · subst percent
    exact decodeBytes_sign_of_stray kept
  · have plain : ∀ b ∈ Utf8.encodeChar c, b ≠ sign := fun b => ne_sign_of_mem_encodeChar percent
    exact (spells_of_plain plain).decodeBytes_append _

/-- An escape is replaced wherever it stands. -/
theorem decodeBytes_encode_of_isEscape (isEscape : IsEscape b escape) (before after : Text) :
    decodeBytes (Utf8.encode (before ++ (escape ++ after))) =
      decodeBytes (Utf8.encode before) ++ b :: decodeBytes (Utf8.encode after) := by
  have replaced :
      decodeBytes (Utf8.encode (escape ++ after)) = b :: decodeBytes (Utf8.encode after) := by
    rw [Utf8.encode_append, isEscape.spells.decodeBytes_append, List.singleton_append]
  obtain ⟨high, low, rfl⟩ := isEscape.exists_cons
  rw [Utf8.encode_append, ← replaced]
  exact decodeBytes_append_sign _ _

/-- A percent sign that begins no escape is kept wherever it stands. -/
theorem decodeBytes_encode_of_stray (stray : ¬ BeginsEscape ('%' :: after)) (before : Text) :
    decodeBytes (Utf8.encode (before ++ '%' :: after)) =
      decodeBytes (Utf8.encode before) ++ sign :: decodeBytes (Utf8.encode after) := by
  rw [Utf8.encode_append, ← decodeBytes_sign_of_stray stray]
  exact decodeBytes_append_sign _ _

/-! The bytes that the escapes leave. -/

theorem Unescapes.eq_decodeBytes (unescapes : Unescapes segment bytes) :
    bytes = decodeBytes (Utf8.encode segment) := by
  induction unescapes with
  | nil => rfl
  | escape isEscape _ ih =>
    rw [Utf8.encode_append, isEscape.spells.decodeBytes_append, ih, List.singleton_append]
  | kept kept _ ih => rw [decodeBytes_encode_of_kept kept, ih]

theorem exists_unescapes (segment : Text) : ∃ bytes, Unescapes segment bytes := by
  -- On the length, because an escape takes three characters at once.
  induction length : segment.length using Nat.strongRecOn generalizing segment with
  | ind size ih =>
    by_cases begins : BeginsEscape segment
    · obtain ⟨b, escape, after, isEscape, rfl⟩ := begins
      have shorter : after.length < size := by
        obtain ⟨high, low, rfl⟩ := isEscape.exists_cons
        simp only [← length, List.length_append, List.length_cons]
        omega
      obtain ⟨bytes, unescapes⟩ := ih after.length shorter after rfl
      exact ⟨_, .escape isEscape unescapes⟩
    · cases segment with
      | nil => exact ⟨[], .nil⟩
      | cons c rest =>
        obtain ⟨bytes, unescapes⟩ := ih rest.length (by simp [← length]) rest rfl
        exact ⟨_, .kept begins unescapes⟩

theorem unescapes_iff : Unescapes segment bytes ↔ bytes = decodeBytes (Utf8.encode segment) := by
  constructor
  · exact Unescapes.eq_decodeBytes
  · rintro rfl
    obtain ⟨bytes, unescapes⟩ := exists_unescapes segment
    exact unescapes.eq_decodeBytes ▸ unescapes

theorem length_decodeBytes_le (bytes : Bytes) : (decodeBytes bytes).length ≤ bytes.length := by
  rcases decodeBytes_eq_or_length_add_le bytes with same | shorter
  · exact Nat.le_of_eq (congrArg List.length same)
  · omega

/-- Only escapes are replaced, and each of them is. -/
theorem decodeBytes_encode_eq_self_iff :
    decodeBytes (Utf8.encode segment) = Utf8.encode segment ↔ ¬ HasEscape segment := by
  constructor
  · rintro same ⟨before, _, rfl, b, escape, after, isEscape, rfl⟩
    have total := congrArg List.length same
    rw [decodeBytes_encode_of_isEscape isEscape, Utf8.encode_append, Utf8.encode_append] at total
    simp only [List.length_append, List.length_cons] at total
    have first := length_decodeBytes_le (Utf8.encode before)
    have last := length_decodeBytes_le (Utf8.encode after)
    obtain ⟨high, low, rfl⟩ := isEscape.exists_cons
    have three : 3 ≤ (Utf8.encode ['%', high, low]).length :=
      Utf8.length_le_length_encode ['%', high, low]
    omega
  · intro none
    induction segment with
    | nil => rfl
    | cons c rest ih =>
      have kept : ¬ BeginsEscape (c :: rest) := fun begins => none ⟨[], c :: rest, rfl, begins⟩
      have later : ¬ HasEscape rest := by
        rintro ⟨before, after, rfl, begins⟩
        exact none ⟨c :: before, after, rfl, begins⟩
      rw [decodeBytes_encode_of_kept kept, ih later, Utf8.encode_cons]

/-! The text that they are decoded to. -/

theorem encode_decode_of_isValidUTF8
    (valid : (decodeBytes (Utf8.encode segment)).toByteArray.IsValidUTF8) :
    Utf8.encode (decode segment) = decodeBytes (Utf8.encode segment) := by
  obtain ⟨text, read⟩ := Utf8.isValidUTF8_iff.mp valid
  rw [decode_eq_of_encode_eq read, read]

/-- Nothing changes if there is nothing to replace, or if the result is no text. -/
theorem decode_eq_self_iff :
    decode segment = segment ↔ ¬ HasEscape segment ∨
      ¬ (decodeBytes (Utf8.encode segment)).toByteArray.IsValidUTF8 := by
  rw [← decodeBytes_encode_eq_self_iff]
  constructor
  · intro same
    by_cases valid : (decodeBytes (Utf8.encode segment)).toByteArray.IsValidUTF8
    · left
      rw [← encode_decode_of_isValidUTF8 valid, same]
    · exact .inr valid
  · rintro (unchanged | invalid)
    · exact decode_eq_of_encode_eq unchanged.symm
    · rcases decode_cases segment with read | same
      · exact absurd (Utf8.isValidUTF8_iff.mpr ⟨_, read⟩) invalid
      · exact same

/-- Before and after a percent sign that is kept, a segment is decoded on its own, or nowhere. -/
theorem decode_of_stray (stray : ¬ BeginsEscape ('%' :: after)) (before : Text) :
    decode (before ++ '%' :: after) = before ++ '%' :: after ∨
      decode (before ++ '%' :: after) = decode before ++ '%' :: decode after := by
  rcases decode_cases (before ++ '%' :: after) with read | same
  · right
    rw [decodeBytes_encode_of_stray stray] at read
    obtain ⟨first, last, whole, front, back⟩ := Utf8.exists_of_encode_eq (c := '%') read
    rw [whole, decode_eq_of_encode_eq front, decode_eq_of_encode_eq back]
  · exact .inl same

theorem Encodes.spells (encodes : Encodes bytes written) : Spells bytes (Utf8.encode written) := by
  induction encodes with
  | nil => exact .nil
  | @kept c bytes written short other _ ih =>
    have form := Utf8.encodeChar_of_lt short
    have plain : UInt8.ofNat c.toNat ≠ sign :=
      ne_sign_of_mem_encodeChar other (form ▸ List.mem_singleton_self _)
    rw [Utf8.encode_cons, form]
    exact .plain plain ih
  | escaped isEscape _ ih =>
    rw [Utf8.encode_append]
    exact isEscape.spells.append ih

/-- The escapes of a segment leave certain bytes, and decoding gives the text of these, or the
segment as it is if there is no such text. It never lengthens a segment, nor empties it, nor takes a
percent sign that begins no escape. Any way of writing a text in which the right bytes are escaped
is decoded to that text. -/
theorem percent_decoding_is_exact (segment : Text) :
    (∃ bytes, Unescapes segment bytes ∧ (∀ other, Unescapes segment other → other = bytes) ∧
      (bytes.toByteArray.IsValidUTF8 → Utf8.encode (decode segment) = bytes) ∧
      (decode segment = segment ↔ ¬ HasEscape segment ∨ ¬ bytes.toByteArray.IsValidUTF8)) ∧
    (Utf8.encode (decode segment)).length ≤ (Utf8.encode segment).length ∧
    (segment ≠ [] → decode segment ≠ []) ∧
    (∀ before after, segment = before ++ '%' :: after → ¬ BeginsEscape ('%' :: after) →
      decode segment = segment ∨ decode segment = decode before ++ '%' :: decode after) ∧
    ∀ text, Encodes (Utf8.encode text) segment → decode segment = text := by
  refine ⟨⟨decodeBytes (Utf8.encode segment), ?_⟩, byteCount_decode_le segment, decode_ne_nil, ?_, ?_⟩
  · refine ⟨unescapes_iff.mpr rfl, ?_, encode_decode_of_isValidUTF8, decode_eq_self_iff⟩
    exact fun other unescapes => unescapes.eq_decodeBytes
  · rintro before after rfl stray
    exact decode_of_stray stray before
  · intro text encodes
    exact decode_eq_of_encode_eq encodes.spells.decodeBytes_eq.symm

/-- An escape that leaves no text keeps the others from being replaced. -/
example : decode "%41%FF" = ("%41%FF" : Text) := by decide

/-- The first of two percent signs is kept although the second begins an escape, and a character of
two bytes is put together from two escapes. -/
theorem doubled_sign_is_kept :
    ("%%41" : Text) ≠ [] ∧ ¬ BeginsEscape ("%%41" : Text) ∧ decode "%%41" = ("%A" : Text) ∧
      Encodes (Utf8.encode "é%") "%c3%A9%25" ∧ decode "%c3%A9%25" = ("é%" : Text) := by
  have stray : ¬ BeginsEscape ['%', '%', '4', '1'] := by
    rintro ⟨b, escape, after, isEscape, same⟩
    cases isEscape with
    | digits high low value =>
      cases same
      have digit := Hexadecimal.digit?_eq_some_iff.mpr high
      cases digit
  have four : IsEscape 0x41 ['%', '4', '1'] := .digits (h := 4) (l := 1) (by decide) (by decide) rfl
  have first : IsEscape 0xC3 ['%', 'c', '3'] :=
    .digits (h := 12) (l := 3) (by decide) (by decide) rfl
  have second : IsEscape 0xA9 ['%', 'A', '9'] :=
    .digits (h := 10) (l := 9) (by decide) (by decide) rfl
  have percent : IsEscape 0x25 ['%', '2', '5'] :=
    .digits (h := 2) (l := 5) (by decide) (by decide) rfl
  have letter : Encodes (Utf8.encode "A") "%41" := .escaped four .nil
  have accented : Encodes (Utf8.encode "é%") "%c3%A9%25" :=
    .escaped first (.escaped second (.escaped percent .nil))
  obtain ⟨_, _, _, kept, _⟩ := percent_decoding_is_exact "%%41"
  have some : ("%%41" : Text) ≠ [] := by decide
  have decoded : decode "%%41" = ("%A" : Text) := by
    rcases kept [] "%41" rfl stray with same | apart
    · exact absurd same (by decide)
    · rw [apart, (percent_decoding_is_exact "%41").2.2.2.2 "A" letter]
      rfl
  exact ⟨some, stray, decoded, accented, (percent_decoding_is_exact "%c3%A9%25").2.2.2.2 _ accented⟩

end Percent

end DocBrowser
