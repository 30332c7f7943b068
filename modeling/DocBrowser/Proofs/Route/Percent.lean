import DocBrowser.Proofs.Text.Utf8
import DocBrowser.Route.Percent

/-!
What percent-decoding makes of a segment. It removes the signs of the escapes that it replaces, so a
character that only decoding brings costs a percent sign. Segments in which the right characters are
escaped are decoded to what they were written for.
-/

namespace DocBrowser

namespace Utf8

/-- Counting characters of one byte is counting their bytes. -/
theorem countP_encode {p : Char → Bool} (short : ∀ c, p c = true → c.toNat < 0x80) (text : Text) :
    (encode text).countP (fun b => p (Char.ofNat b.toNat)) = text.countP p := by
  induction text with
  | nil => rfl
  | cons c rest ih =>
    rw [encode_cons, List.countP_append, ih, List.countP_cons, Nat.add_comm]
    congr 1
    by_cases single : c.toNat < 0x80
    · rw [encodeChar_of_lt single, List.countP_singleton, toNat_ofNat_of_short single,
        Char.ofNat_toNat]
    · have uncounted : p c ≠ true := fun counted => single (short c counted)
      rw [if_neg uncounted, List.countP_eq_zero]
      intro b member counted
      have high := le_of_mem_encodeChar (Nat.le_of_not_lt single) member
      have valid : b.toNat.isValidChar := by
        have bound := b.toNat_lt
        unfold Nat.isValidChar
        omega
      have low := short _ counted
      rw [toNat_charOfNat valid] at low
      omega

end Utf8

namespace Percent

open Utf8 (byteCount)

/-- Each escape costs a sign, and brings one byte at most. -/
theorem countP_decodeBytes_le {p : UInt8 → Bool} (signs : p sign = true) (bytes : Bytes) :
    (decodeBytes bytes).countP p ≤ bytes.countP p := by
  fun_induction decodeBytes bytes with
  | case1 => exact Nat.le_refl _
  | case2 => exact Nat.le_refl _
  | case3 => exact Nat.le_refl _
  | case4 high low rest byte escaped ih =>
    simp only [List.countP_cons, signs, if_true]
    split <;> omega
  | case5 high low rest plain ih =>
    rw [List.countP_cons, List.countP_cons]
    omega
  | case6 b high low rest plain ih =>
    rw [List.countP_cons, List.countP_cons]
    omega

theorem decodeBytes_eq_or_length_add_le (bytes : Bytes) :
    decodeBytes bytes = bytes ∨ (decodeBytes bytes).length + 2 ≤ bytes.length := by
  fun_induction decodeBytes bytes with
  | case1 => exact .inl rfl
  | case2 => exact .inl rfl
  | case3 => exact .inl rfl
  | case4 high low rest byte escaped ih =>
    right
    rcases ih with same | shorter
    · rw [same]
      exact Nat.le_refl _
    · simp only [List.length_cons]
      omega
  | case5 high low rest plain ih =>
    exact ih.imp (congrArg _) fun shorter => Nat.succ_le_succ shorter
  | case6 b high low rest plain ih =>
    exact ih.imp (congrArg _) fun shorter => Nat.succ_le_succ shorter

theorem decodeBytes_eq_nil_iff {bytes : Bytes} : decodeBytes bytes = [] ↔ bytes = [] := by
  fun_cases decodeBytes bytes <;> simp

/-- Decoding a segment takes the form of the result from its escapes, or changes nothing. -/
theorem decode_cases (segment : Text) :
    Utf8.encode (decode segment) = decodeBytes (Utf8.encode segment) ∨ decode segment = segment := by
  rw [decode]
  cases read : Utf8.decode? (decodeBytes (Utf8.encode segment)) with
  | none => exact .inr rfl
  | some text => exact .inl (Utf8.decode?_eq_some_iff.mp read)

/-- Bytes that are the form of a text are decoded to it. -/
theorem decode_eq_of_encode_eq {segment text : Text}
    (read : Utf8.encode text = decodeBytes (Utf8.encode segment)) : decode segment = text := by
  rw [decode, ← read, Utf8.decode?_encode]
  rfl

theorem decode_ne_nil {segment : Text} (some : segment ≠ []) : decode segment ≠ [] := by
  intro nothing
  rcases decode_cases segment with read | same
  · rw [nothing, eq_comm, show Utf8.encode [] = [] from rfl, decodeBytes_eq_nil_iff,
      Utf8.encode_eq_nil_iff] at read
    exact some read
  · exact some (same.symm.trans nothing)

/-- Each escape that is replaced saves two bytes. -/
theorem decode_eq_or_byteCount_add_le (segment : Text) :
    decode segment = segment ∨ byteCount (decode segment) + 2 ≤ byteCount segment := by
  rcases decode_cases segment with read | same
  · rw [byteCount, byteCount, read]
    rcases decodeBytes_eq_or_length_add_le (Utf8.encode segment) with unchanged | shorter
    · exact .inl (Utf8.encode_injective (read.trans unchanged))
    · exact .inr shorter
  · exact .inl same

theorem byteCount_decode_le (segment : Text) : byteCount (decode segment) ≤ byteCount segment := by
  rcases decode_eq_or_byteCount_add_le segment with same | shorter
  · exact Nat.le_of_eq (congrArg byteCount same)
  · omega

theorem decode_eq_of_byteCount_le {segment : Text}
    (long : byteCount segment ≤ byteCount (decode segment)) : decode segment = segment := by
  rcases decode_eq_or_byteCount_add_le segment with same | shorter
  · exact same
  · omega

/-- Of any choice of characters of one byte with the percent sign among them, decoding makes no
more. -/
theorem countP_decode_le {p : Char → Bool} (short : ∀ c, p c = true → c.toNat < 0x80)
    (signs : p '%' = true) (segment : Text) : (decode segment).countP p ≤ segment.countP p := by
  rcases decode_cases segment with read | same
  · rw [← Utf8.countP_encode short, ← Utf8.countP_encode short, read]
    exact countP_decodeBytes_le signs _
  · exact Nat.le_of_eq (congrArg (List.countP p) same)

/-- Characters that divide a path. -/
def dividers : List Char := ['/', '?', '#']

theorem countP_sign_or_divider (text : Text) :
    text.countP (· ∈ '%' :: dividers) = text.count '%' + text.countP (· ∈ dividers) := by
  induction text with
  | nil => rfl
  | cons c rest ih =>
    rw [List.countP_cons, List.countP_cons, List.count_cons, ih]
    by_cases sign : c = '%'
    · subst sign
      simp [dividers]
      omega
    · simp [sign]
      omega

/-- Each divider that only decoding brings costs a percent sign. -/
theorem count_decode_add_le {segment : Text} (whole : ∀ c ∈ segment, c ∉ dividers) :
    (decode segment).count '%' + (decode segment).countP (· ∈ dividers) ≤ segment.count '%' := by
  have short : ∀ c : Char, decide (c ∈ '%' :: dividers) = true → c.toNat < 0x80 := by
    intro c chosen
    simp only [dividers, decide_eq_true_eq, List.mem_cons, List.not_mem_nil, or_false] at chosen
    rcases chosen with rfl | rfl | rfl | rfl <;> decide
  have undivided : segment.countP (· ∈ dividers) = 0 := by
    rw [List.countP_eq_zero]
    intro c member
    simpa using whole c member
  have decoded := countP_decode_le short (by simp) segment
  rwa [countP_sign_or_divider, countP_sign_or_divider, undivided] at decoded

theorem count_decode_le (segment : Text) : (decode segment).count '%' ≤ segment.count '%' :=
  countP_decode_le (p := (· == '%')) (by simp) (by simp) segment

/-- Decoding a segment brings no divider, or leaves fewer percent signs. -/
theorem undivided_or_count_decode_lt {segment : Text} (whole : ∀ c ∈ segment, c ∉ dividers) :
    (∀ c ∈ decode segment, c ∉ dividers) ∨ (decode segment).count '%' < segment.count '%' := by
  have total := count_decode_add_le whole
  by_cases undivided : ∀ c ∈ decode segment, c ∉ dividers
  · exact .inl undivided
  · right
    have positive : 0 < (decode segment).countP (· ∈ dividers) := by
      rw [List.countP_pos_iff]
      simpa using undivided
    omega

/-! Segments with escapes. -/

/-- Bytes written so that decoding gives `bytes`. -/
inductive Spells : Bytes → Bytes → Prop
  | nil : Spells [] []
  | plain {b : UInt8} {bytes written : Bytes} : b ≠ sign → Spells bytes written →
      Spells (b :: bytes) (b :: written)
  | escaped {b high low : UInt8} {bytes written : Bytes} : Hexadecimal.byte? high low = some b →
      Spells bytes written → Spells (b :: bytes) (sign :: high :: low :: written)

/-- A byte that begins no escape is kept. -/
theorem decodeBytes_cons_of_kept {b : UInt8} {rest : Bytes}
    (kept : ∀ high low more, b = sign → rest = high :: low :: more →
      Hexadecimal.byte? high low = none) : decodeBytes (b :: rest) = b :: decodeBytes rest := by
  rcases rest with _ | ⟨high, _ | ⟨low, more⟩⟩
  · rfl
  · rfl
  · rw [decodeBytes]
    split
    · next begins =>
      rw [kept high low more begins rfl]
    · rfl

theorem decodeBytes_cons_of_ne {b : UInt8} (plain : b ≠ sign) (rest : Bytes) :
    decodeBytes (b :: rest) = b :: decodeBytes rest :=
  decodeBytes_cons_of_kept fun _ _ _ begins _ => absurd begins plain

/-- What is written so is decoded on its own, whatever follows it. -/
theorem Spells.decodeBytes_append {bytes written : Bytes} (spells : Spells bytes written)
    (rest : Bytes) : decodeBytes (written ++ rest) = bytes ++ decodeBytes rest := by
  induction spells with
  | nil => rfl
  | plain ne _ ih => rw [List.cons_append, decodeBytes_cons_of_ne ne, ih, List.cons_append]
  | escaped byte _ ih =>
    simp only [List.cons_append, decodeBytes, if_true, byte, ih]

theorem Spells.decodeBytes_eq {bytes written : Bytes} (spells : Spells bytes written) :
    decodeBytes written = bytes := by
  have alone := spells.decodeBytes_append []
  rwa [List.append_nil, decodeBytes, List.append_nil] at alone

theorem Spells.append {first rest firstWritten restWritten : Bytes}
    (before : Spells first firstWritten) (after : Spells rest restWritten) :
    Spells (first ++ rest) (firstWritten ++ restWritten) := by
  induction before with
  | nil => exact after
  | plain ne _ ih => exact .plain ne ih
  | escaped byte _ ih => exact .escaped byte ih

/-- All bytes as percent signs with two hexadecimal digits, of either case. -/
inductive Escapes : Bytes → Text → Prop
  | nil : Escapes [] []
  | cons {b : UInt8} {high low : Char} {h l : Nat} {bytes : Bytes} {written : Text} :
      Hexadecimal.digit? high.toNat = some h → Hexadecimal.digit? low.toNat = some l →
      b.toNat = h * 16 + l → Escapes bytes written →
      Escapes (b :: bytes) ('%' :: high :: low :: written)

/-- A text in which each character is as it is or escaped as a whole. Slashes, question marks,
number signs and percent signs are escaped. -/
inductive Writes : Text → Text → Prop
  | nil : Writes [] []
  | kept {c : Char} {text written : Text} : c ∉ '%' :: dividers → Writes text written →
      Writes (c :: text) (c :: written)
  | escaped {c : Char} {text escape written : Text} : Escapes (Utf8.encodeChar c) escape →
      Writes text written → Writes (c :: text) (escape ++ written)

theorem digit?_bounds {n value : Nat} (digit : Hexadecimal.digit? n = some value) :
    n < 0x80 ∧ value < 0x10 := by
  unfold Hexadecimal.digit? at digit
  grind

theorem Escapes.spells {bytes : Bytes} {written : Text} (escapes : Escapes bytes written) :
    Spells bytes (Utf8.encode written) := by
  induction escapes with
  | nil => exact .nil
  | @cons b high low h l bytes written highDigit lowDigit value _ ih =>
    have highShort := (digit?_bounds highDigit).1
    have lowShort := (digit?_bounds lowDigit).1
    have percent : Utf8.encodeChar '%' = [sign] := rfl
    rw [Utf8.encode_cons, Utf8.encode_cons, Utf8.encode_cons, percent,
      Utf8.encodeChar_of_lt highShort, Utf8.encodeChar_of_lt lowShort]
    refine .escaped ?_ ih
    rw [Hexadecimal.byte?, Utf8.toNat_ofNat_of_short highShort,
      Utf8.toNat_ofNat_of_short lowShort, highDigit, lowDigit]
    simp [← value]

theorem spells_of_plain {bytes : Bytes} (plain : ∀ b ∈ bytes, b ≠ sign) : Spells bytes bytes := by
  induction bytes with
  | nil => exact .nil
  | cons b rest ih =>
    exact .plain (plain b List.mem_cons_self) (ih fun b member => plain b (.tail _ member))

theorem ne_sign_of_mem_encodeChar {c : Char} (other : c ≠ '%') {b : UInt8}
    (member : b ∈ Utf8.encodeChar c) : b ≠ sign := by
  rintro rfl
  by_cases short : c.toNat < 0x80
  · rw [Utf8.encodeChar_of_lt short, List.mem_singleton] at member
    have number := congrArg UInt8.toNat member
    rw [Utf8.toNat_ofNat_of_short short] at number
    apply other
    rw [← Char.ofNat_toNat c, ← number]
    rfl
  · have high := Utf8.le_of_mem_encodeChar (Nat.le_of_not_lt short) member
    exact absurd high (by decide)

/-- A segment without percent signs stands for itself. -/
theorem decode_of_not_mem {segment : Text} (plain : '%' ∉ segment) : decode segment = segment := by
  have spells : Spells (Utf8.encode segment) (Utf8.encode segment) := by
    apply spells_of_plain
    intro b member
    obtain ⟨c, there, inside⟩ := List.mem_flatMap.mp member
    refine ne_sign_of_mem_encodeChar ?_ inside
    rintro rfl
    exact plain there
  exact decode_eq_of_encode_eq spells.decodeBytes_eq.symm

theorem not_mem_of_digit? {c : Char} {value : Nat}
    (digit : Hexadecimal.digit? c.toNat = some value) : c ∉ dividers := by
  intro member
  simp only [dividers, List.mem_cons, List.not_mem_nil, or_false] at member
  rcases member with rfl | rfl | rfl <;> cases digit

theorem not_mem_of_escapes {bytes : Bytes} {written : Text}
    (escapes : Escapes bytes written) :
    ∀ c ∈ written, c ∉ dividers := by
  induction escapes with
  | nil => simp
  | cons highDigit lowDigit _ _ ih =>
    intro c member
    rcases List.mem_cons.mp member with rfl | member
    · decide
    rcases List.mem_cons.mp member with rfl | member
    · exact not_mem_of_digit? highDigit
    rcases List.mem_cons.mp member with rfl | member
    · exact not_mem_of_digit? lowDigit
    · exact ih c member

namespace Writes

variable {text written : Text}

theorem spells (writes : Writes text written) : Spells (Utf8.encode text) (Utf8.encode written) := by
  induction writes with
  | nil => exact .nil
  | kept unreserved _ ih =>
    rw [Utf8.encode_cons, Utf8.encode_cons]
    apply Spells.append _ ih
    apply spells_of_plain
    intro b member
    refine ne_sign_of_mem_encodeChar ?_ member
    rintro rfl
    exact unreserved (by decide)
  | escaped escapes _ ih =>
    rw [Utf8.encode_cons, Utf8.encode_append]
    exact escapes.spells.append ih

/-- A text that is written so is what the segment is decoded to. -/
theorem decode_eq (writes : Writes text written) : decode written = text :=
  decode_eq_of_encode_eq writes.spells.decodeBytes_eq.symm

theorem not_mem (writes : Writes text written) : ∀ c ∈ written, c ∉ dividers := by
  induction writes with
  | nil => simp
  | kept unreserved _ ih =>
    intro c member
    rcases List.mem_cons.mp member with rfl | member
    · intro reserved
      exact unreserved (.tail _ reserved)
    · exact ih c member
  | escaped escapes _ ih =>
    intro c member
    rcases List.mem_append.mp member with member | member
    · exact not_mem_of_escapes escapes c member
    · exact ih c member

theorem keep {kept : Text} (unreserved : ∀ c ∈ kept, c ∉ '%' :: dividers)
    (writes : Writes text written) : Writes (kept ++ text) (kept ++ written) := by
  induction kept with
  | nil => exact writes
  | cons c rest ih =>
    exact .kept (unreserved c List.mem_cons_self) (ih fun c there => unreserved c (.tail _ there))

theorem ne_nil (writes : Writes text written) (some : text ≠ []) : written ≠ [] := by
  rintro rfl
  exact some (writes.decode_eq.symm.trans rfl)

end Writes

end Percent

end DocBrowser
