import DocBrowser.Json.Reader
import DocBrowser.Proofs.Json.Value
import DocBrowser.Proofs.Text.Utf8

/-!
How the values without brackets are read back. Whole numbers are read digit by digit up to something
that does not continue a number, and a string is read byte by byte, where what is escaped stands for
the character it was written for.
-/

namespace DocBrowser.Json.Reader

variable {c : Char} {text : Text} {rest input bytes done : Bytes} {limit n : Nat}

theorem encode_cons_of_short (short : c.toNat < 0x80) (text : Text) :
    Utf8.encode (c :: text) = ascii c :: Utf8.encode text := by
  rw [Utf8.encode_cons, Utf8.encodeChar_of_lt short]
  rfl

theorem encode_eq_letters (short : ∀ c ∈ text, c.toNat < 0x80) :
    Utf8.encode text = letters text := by
  induction text with
  | nil => rfl
  | cons c rest ih =>
    have ⟨first, later⟩ := List.forall_mem_cons.mp short
    rw [encode_cons_of_short first, ih later]
    rfl

theorem toNat_ascii (short : c.toNat < 0x80) : (ascii c).toNat = c.toNat :=
  Utf8.toNat_ofNat_of_short short

theorem eq_of_ascii_eq {d : Char} (short : c.toNat < 0x80) (other : d.toNat < 0x80)
    (same : ascii c = ascii d) : c = d := by
  have number := congrArg UInt8.toNat same
  rw [toNat_ascii short, toNat_ascii other] at number
  exact Char.toNat_inj.mp number

theorem word_append {α : Type} (value : α) (letters rest : Bytes) :
    word value letters (letters ++ rest) = .ok (value, rest) := by
  induction letters with
  | nil => rfl
  | cons letter letters ih => rw [List.cons_append, word, if_pos rfl, ih]

/-! Numbers. -/

/-- Whether bytes do not go on with a number that ends before them. -/
def Closed (rest : Bytes) : Prop :=
  ∀ b ∈ rest.head?, isDigit b = false ∧ b ≠ ascii '.' ∧ isExponentMark b = false

theorem digit_bounds (digit : c.isDigit = true) : 0x30 ≤ c.toNat ∧ c.toNat ≤ 0x39 := by
  rw [Char.isDigit, Bool.and_eq_true, decide_eq_true_eq, decide_eq_true_eq] at digit
  exact ⟨UInt32.le_iff_toNat_le.mp digit.1, UInt32.le_iff_toNat_le.mp digit.2⟩

theorem isDigit_ascii (digit : c.isDigit = true) : isDigit (ascii c) = true := by
  have ⟨low, high⟩ := digit_bounds digit
  have same := toNat_ascii (c := c) (by omega)
  rw [isDigit, Bool.and_eq_true, decide_eq_true_eq, decide_eq_true_eq, UInt8.le_iff_toNat_le,
    UInt8.le_iff_toNat_le, same]
  exact ⟨low, high⟩

theorem natOfDigits_letters (digits : ∀ c ∈ text, c.isDigit = true) :
    natOfDigits (letters text) = Nat.ofDigitChars 10 text 0 := by
  have go : ∀ start, (letters text).foldl (fun n d => 10 * n + digitValue d) start =
      Nat.ofDigitChars 10 text start := by
    induction text with
    | nil => exact fun start => rfl
    | cons c rest ih =>
      intro start
      have ⟨first, later⟩ := List.forall_mem_cons.mp digits
      have same := toNat_ascii (c := c) (by have := digit_bounds first; omega)
      rw [Nat.ofDigitChars_cons, ← ih later, letters, List.map_cons, List.foldl_cons, digitValue,
        same]
      rfl
  exact go 0

/-- The first digit of a number is zero only if the number is. -/
theorem eq_zero_of_head_toDigits (zero : (Nat.toDigits 10 n).head? = some '0') : n = 0 := by
  induction n using Nat.strongRecOn with
  | ind n ih =>
    rw [Nat.toDigits_eq_if (by decide)] at zero
    split at zero
    · exact Nat.digitChar_eq_zero.mp (Option.some.inj zero)
    · next long =>
      have front : (Nat.toDigits 10 (n / 10)).head? = some '0' := by
        obtain ⟨c, rest, digits⟩ := List.exists_cons_of_ne_nil (@Nat.toDigits_ne_nil (n / 10) 10)
        rw [digits] at zero ⊢
        exact zero
      have none := ih (n / 10) (by omega) front
      omega

theorem takeWhile_of_closed (closed : Closed rest) : rest.takeWhile isDigit = [] := by
  cases rest with
  | nil => rfl
  | cons b rest => exact List.takeWhile_cons_of_neg (by simp [(closed b rfl).1])

theorem dropWhile_of_closed (closed : Closed rest) : rest.dropWhile isDigit = rest := by
  cases rest with
  | nil => rfl
  | cons b rest => exact List.dropWhile_cons_of_neg (by simp [(closed b rfl).1])

theorem isDigit_of_mem_ofNat (there : c ∈ Text.ofNat n) : c.isDigit = true :=
  Nat.isDigit_of_mem_toDigits (by decide) (by decide) there

theorem exists_ofNat (n : Nat) : ∃ c more, Text.ofNat n = c :: more ∧ c.isDigit = true := by
  obtain ⟨c, more, written⟩ := List.exists_cons_of_ne_nil (@Nat.toDigits_ne_nil n 10)
  refine ⟨c, more, written, isDigit_of_mem_ofNat (n := n) ?_⟩
  rw [Text.ofNat, written]
  exact List.mem_cons_self

theorem encode_ofNat (n : Nat) : Utf8.encode (Text.ofNat n) = letters (Text.ofNat n) := by
  apply encode_eq_letters
  intro c there
  have bounds := digit_bounds (isDigit_of_mem_ofNat there)
  omega

/-- A number ends where its digits do. -/
theorem number_ofNat (negative : Bool) (n : Nat) (closed : Closed rest) :
    number negative (letters (Text.ofNat n) ++ rest) = wholeNumber negative n rest := by
  have value : natOfDigits (letters (Text.ofNat n)) = n := by
    rw [natOfDigits_letters fun c there => isDigit_of_mem_ofNat there, Text.ofNat,
      Nat.ofDigitChars_ten_toDigits]
  have all : ∀ b ∈ letters (Text.ofNat n), isDigit b = true := by
    intro b there
    obtain ⟨c, among, rfl⟩ := List.mem_map.mp there
    exact isDigit_ascii (isDigit_of_mem_ofNat among)
  have whole : (letters (Text.ofNat n) ++ rest).takeWhile isDigit = letters (Text.ofNat n) := by
    rw [List.takeWhile_append_of_pos all, takeWhile_of_closed closed, List.append_nil]
  have after : (letters (Text.ofNat n) ++ rest).dropWhile isDigit = rest := by
    rw [List.dropWhile_append_of_pos all, dropWhile_of_closed closed]
  obtain ⟨c, more, written, digit⟩ := exists_ofNat n
  -- Only zero begins with a zero, of which no more than the one digit is taken.
  have single : ascii c = ascii '0' → more = [] := by
    intro zero
    have ⟨low, high⟩ := digit_bounds digit
    obtain rfl := eq_of_ascii_eq (by omega) (by decide) zero
    rw [Text.ofNat] at written
    obtain rfl := eq_zero_of_head_toDigits (n := n) (by rw [written]; rfl)
    cases written
    rfl
  have spelled : letters (Text.ofNat n) = ascii c :: letters more := by
    rw [written]
    rfl
  rw [spelled] at value whole after ⊢
  rw [List.cons_append] at whole after ⊢
  have ended : afterWhole negative (ascii c :: letters more) rest = wholeNumber negative n rest := by
    rw [afterWhole.eq_def, value]
    cases rest with
    | nil => rfl
    | cons b rest =>
      obtain ⟨other, point, exponent⟩ := closed b rfl
      simp [other, point, exponent]
  rw [number]
  simp only [isDigit_ascii digit, not_true_eq_false, if_false, whole, after]
  split
  · next zero =>
    rw [single zero] at ended ⊢
    exact ended
  · exact ended

theorem ne_of_isDigit {b letter : UInt8} (digit : isDigit b = true)
    (other : isDigit letter = false) : b ≠ letter := by
  rintro rfl
  rw [digit] at other
  cases other

theorem scalar_minus {number : Number} (read : Reader.number true input = .ok (number, rest)) :
    scalar limit (ascii '-') input = .ok (.number number, rest) := by
  rw [scalar, if_neg (by decide), if_neg (by decide), if_neg (by decide), if_pos rfl, read]
  rfl

theorem scalar_digit {b : UInt8} {number : Number} (digit : isDigit b = true)
    (read : Reader.number false (b :: input) = .ok (number, rest)) :
    scalar limit b input = .ok (.number number, rest) := by
  have other := fun letter => @ne_of_isDigit b letter digit
  rw [scalar, if_neg (other _ (by decide)), if_neg (other _ (by decide)),
    if_neg (other _ (by decide)), if_neg (other _ (by decide)), if_pos digit, read]
  rfl

theorem scalar_of_minus {n : Nat} (some : n ≠ 0) (small : n ≤ 0x8000000000000000)
    (closed : Closed rest) :
    scalar limit (ascii '-') (letters (Text.ofNat n) ++ rest) =
      .ok (.number (.integer (-n)), rest) := by
  apply scalar_minus
  rw [number_ofNat true n closed, wholeNumber, if_pos rfl, if_pos ⟨some, small⟩]

theorem scalar_of_digit {n : Nat} {b : UInt8} (small : n < 0x10000000000000000)
    (digit : isDigit b = true) (spelled : letters (Text.ofNat n) = b :: input)
    (closed : Closed rest) :
    scalar limit b (input ++ rest) = .ok (.number (.integer n), rest) := by
  apply scalar_digit digit
  rw [← List.cons_append, ← spelled, number_ofNat false n closed, wholeNumber,
    if_neg (by decide), if_pos small]

/-- A whole number begins with a minus sign or with a digit, and is read back up to what closes
it. -/
theorem exists_of_integral {n : Number} (whole : n.Integral) :
    ∃ b more, Utf8.encode n.written = b :: more ∧ (b = ascii '-' ∨ isDigit b = true) ∧
      ∀ limit rest, Closed rest → scalar limit b (more ++ rest) = .ok (.number n, rest) := by
  cases n with
  | float x => exact whole.elim
  | integer n =>
    have ⟨low, high⟩ := whole
    by_cases negative : n < 0
    · have number : (-(n.natAbs : Int)) = n := by omega
      refine ⟨ascii '-', letters (Text.ofNat n.natAbs), ?_, .inl rfl, ?_⟩
      · rw [Number.written, if_pos negative, ← encode_ofNat]
        exact encode_cons_of_short (by decide) _
      · intro limit rest closed
        rw [scalar_of_minus (by omega) (by omega) closed, number]
    · have number : (n.natAbs : Int) = n := by omega
      obtain ⟨c, more, written, digit⟩ := exists_ofNat n.natAbs
      have spelled : letters (Text.ofNat n.natAbs) = ascii c :: letters more := by
        rw [written]
        rfl
      refine ⟨ascii c, letters more, ?_, .inr (isDigit_ascii digit), ?_⟩
      · rw [Number.written, if_neg negative, ← spelled, ← encode_ofNat]
        rfl
      · intro limit rest closed
        rw [scalar_of_digit (by omega) (isDigit_ascii digit) spelled closed, number]

/-! Strings. -/

theorem isPlainByte_iff {b : UInt8} :
    isPlainByte b = true ↔ b ≠ ascii '"' ∧ b ≠ ascii '\\' ∧ 0x20 ≤ b.toNat := by
  simp only [isPlainByte, Bool.and_eq_true, bne_iff_ne, decide_eq_true_eq, UInt8.le_iff_toNat_le,
    and_assoc]
  rfl

theorem plain_of_escape?_eq_none (unescaped : escape? c = none) :
    ∀ b ∈ Utf8.encodeChar c, isPlainByte b = true := by
  have ⟨quote, backslash, control⟩ : c ≠ '"' ∧ c ≠ '\\' ∧ ¬ c.toNat < 0x20 := by
    unfold escape? at unescaped
    grind
  intro b there
  rw [isPlainByte_iff]
  by_cases short : c.toNat < 0x80
  · rw [Utf8.encodeChar_of_lt short, List.mem_singleton] at there
    obtain rfl : b = ascii c := there
    rw [toNat_ascii short]
    refine ⟨?_, ?_, Nat.le_of_not_lt control⟩
    · exact fun same => quote (eq_of_ascii_eq short (by decide) same)
    · exact fun same => backslash (eq_of_ascii_eq short (by decide) same)
  · have high := Utf8.le_of_mem_encodeChar (Nat.le_of_not_lt short) there
    refine ⟨?_, ?_, by omega⟩
    · rintro rfl
      exact absurd high (by decide)
    · rintro rfl
      exact absurd high (by decide)

/-- Bytes that stand for themselves are taken over. -/
theorem stringBytes_append (plain : ∀ b ∈ bytes, isPlainByte b = true) :
    stringBytes done (limit + 1) (bytes ++ input) =
      stringBytes (bytes.reverseAux done) (limit + 1) input := by
  rw [stringBytes, stringBytes, List.takeWhile_append_of_pos plain,
    List.dropWhile_append_of_pos plain]
  simp [List.reverseAux_eq]

theorem stringBytes_escape {written : Bytes} (read : escape (written ++ rest) = .ok (c, rest)) :
    stringBytes done (limit + 1) (ascii '\\' :: (written ++ rest)) =
      stringBytes ((Utf8.encodeChar c).reverseAux done) limit rest := by
  have stops : isPlainByte (ascii '\\') = false := by decide
  have other : ascii '\\' ≠ ascii '"' := by decide
  rw [stringBytes, List.takeWhile_cons_of_neg (by simp [stops]),
    List.dropWhile_cons_of_neg (by simp [stops])]
  simp only [other, if_false, if_true, read]
  rfl

theorem stringBytes_quote (done rest : Bytes) (limit : Nat) :
    stringBytes done (limit + 1) (ascii '"' :: rest) = .ok (done.reverse, rest) := by
  have stops : isPlainByte (ascii '"') = false := by decide
  rw [stringBytes, List.takeWhile_cons_of_neg (by simp [stops]),
    List.dropWhile_cons_of_neg (by simp [stops])]
  rfl

theorem hexValue?_digitChar :
    ∀ digit < 0x10, hexValue? (ascii (Nat.digitChar digit)) = some digit := by
  decide

theorem hexUnit_ofByte (short : n < 0x20) (rest : Bytes) :
    hexUnit (letters ("00" ++ Hexadecimal.ofByte (UInt8.ofNat n)) ++ rest) = .ok (n, rest) := by
  have number : (UInt8.ofNat n).toNat = n := Utf8.toNat_ofNat_of_short (by omega)
  have zero : hexValue? (ascii '0') = some 0 := hexValue?_digitChar 0 (by decide)
  have high := hexValue?_digitChar (n / 16) (by omega)
  have low := hexValue?_digitChar (n % 16) (by omega)
  have whole : n / 16 * 16 + n % 16 = n := by omega
  simp [Hexadecimal.ofByte, number, letters, hexUnit, zero, high, low, whole]

theorem short_of_mem_ofByte (b : UInt8) : ∀ c ∈ Hexadecimal.ofByte b, c.toNat < 0x80 := by
  have digits : ∀ digit < 0x10, (Nat.digitChar digit).toNat < 0x80 := by decide
  have byte := b.toNat_lt
  intro c there
  simp only [Hexadecimal.ofByte, List.mem_cons, List.not_mem_nil, or_false] at there
  rcases there with rfl | rfl
  · exact digits _ (by omega)
  · exact digits _ (by omega)

/-- A character is escaped by a letter that stands for it, or else by its number. -/
theorem escape?_cases {written : Text} (escaped : escape? c = some written) :
    (∃ letter, written = ['\\', letter] ∧ letter.toNat < 0x80 ∧
      shortEscape? (ascii letter) = some c) ∨
    c.toNat < 0x20 ∧ written = "\\u00" ++ Hexadecimal.ofByte (UInt8.ofNat c.toNat) := by
  have named : ∀ letter d, letter.toNat < 0x80 → shortEscape? (ascii letter) = some d → c = d →
      some ['\\', letter] = some written →
      ∃ letter, written = ['\\', letter] ∧ letter.toNat < 0x80 ∧
        shortEscape? (ascii letter) = some c := by
    rintro letter d short means rfl same
    exact ⟨letter, (Option.some.inj same).symm, short, means⟩
  have numbered : ∀ n, c.toNat = n → c = Char.ofNat n := by
    rintro n rfl
    exact (Char.ofNat_toNat c).symm
  unfold escape? at escaped
  split at escaped
  case isTrue same => exact .inl (named '"' '"' (by decide) rfl same escaped)
  split at escaped
  case isTrue same => exact .inl (named '\\' '\\' (by decide) rfl same escaped)
  split at escaped
  case isTrue same =>
    exact .inl (named 'b' _ (by decide) rfl (numbered 0x08 same) escaped)
  split at escaped
  case isTrue same => exact .inl (named 't' '\t' (by decide) rfl same escaped)
  split at escaped
  case isTrue same => exact .inl (named 'n' '\n' (by decide) rfl same escaped)
  split at escaped
  case isTrue same =>
    exact .inl (named 'f' _ (by decide) rfl (numbered 0x0C same) escaped)
  split at escaped
  case isTrue same => exact .inl (named 'r' '\r' (by decide) rfl same escaped)
  split at escaped
  case isTrue short => exact .inr ⟨short, (Option.some.inj escaped).symm⟩
  case isFalse => cases escaped

/-- An escape is read as the character that it was written for. -/
theorem exists_of_escape? {written : Text} (escaped : escape? c = some written) :
    ∃ more, Utf8.encode written = ascii '\\' :: more ∧
      ∀ rest, escape (more ++ rest) = .ok (c, rest) := by
  rcases escape?_cases escaped with ⟨letter, rfl, short, means⟩ | ⟨short, rfl⟩
  · refine ⟨[ascii letter], ?_, ?_⟩
    · rw [encode_cons_of_short (by decide), encode_cons_of_short short]
      rfl
    · intro rest
      rw [List.singleton_append, escape, means]
  · refine ⟨ascii 'u' :: letters ("00" ++ Hexadecimal.ofByte (UInt8.ofNat c.toNat)), ?_, ?_⟩
    · have short : ∀ d ∈ "\\u00" ++ Hexadecimal.ofByte (UInt8.ofNat c.toNat), d.toNat < 0x80 := by
        have lead : ∀ d ∈ ['\\', 'u', '0', '0'], d.toNat < 0x80 := by simp
        intro d there
        rcases List.mem_append.mp there with before | digit
        · exact lead d before
        · exact short_of_mem_ofByte _ d digit
      rw [encode_eq_letters short]
      rfl
    · intro rest
      have long : shortEscape? (ascii 'u') = none := by decide
      have first : ¬ (0xDC00 ≤ c.toNat ∧ c.toNat ≤ 0xDFFF) := by omega
      have second : c.toNat < 0xD800 ∨ 0xDBFF < c.toNat := by omega
      rw [List.cons_append, escape, long, if_pos rfl, unicodeEscape, hexUnit_ofByte short]
      simp only [bind, Except.bind, first, second, if_false, if_true, Char.ofNat_toNat]

theorem stringBytes_written (text : Text) (done : Bytes) (enough : text.length < limit) :
    stringBytes done limit (Utf8.encode (text.flatMap writtenChar) ++ ascii '"' :: rest) =
      .ok (done.reverse ++ Utf8.encode text, rest) := by
  induction text generalizing done limit with
  | nil =>
    obtain ⟨left, rfl⟩ := Nat.exists_eq_add_one_of_ne_zero (Nat.ne_of_gt enough)
    rw [List.flatMap_nil, Utf8.encode, List.flatMap_nil, List.nil_append, stringBytes_quote,
      List.append_nil]
  | cons c text ih =>
    obtain ⟨left, rfl⟩ := Nat.exists_eq_add_one_of_ne_zero (Nat.ne_of_gt (Nat.zero_lt_of_lt enough))
    have fewer : text.length < left := Nat.lt_of_succ_lt_succ enough
    rw [List.flatMap_cons, Utf8.encode_append, List.append_assoc, writtenChar, Utf8.encode_cons]
    cases escaped : escape? c with
    | none =>
      have plain := plain_of_escape?_eq_none escaped
      have own : Utf8.encode (none.getD [c]) = Utf8.encodeChar c := by simp [Utf8.encode]
      rw [own, stringBytes_append plain, ih _ (Nat.lt_succ_of_lt fewer)]
      simp [List.reverseAux_eq]
    | some written =>
      obtain ⟨more, spelled, reads⟩ := exists_of_escape? escaped
      rw [Option.getD_some, spelled, List.cons_append, stringBytes_escape (reads _), ih _ fewer]
      simp [List.reverseAux_eq]

theorem string_written (text : Text) (enough : text.length < limit) :
    string limit (Utf8.encode (text.flatMap writtenChar) ++ ascii '"' :: rest) =
      .ok (text, rest) := by
  rw [string, stringBytes_written text [] enough]
  simp [bind, Except.bind, Utf8.decode?_encode]

end DocBrowser.Json.Reader
