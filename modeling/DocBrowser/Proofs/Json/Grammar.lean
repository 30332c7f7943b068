import DocBrowser.Number.Hexadecimal
import DocBrowser.Proofs.Json.Value
import DocBrowser.Proofs.Number.Range
import DocBrowser.Text.Utf8

/-!
What a JSON text is, and which value it stands for. Objects stand for values with their members as
they are written, in their order and with names repeated, so that a value nests as deep as the
brackets of its text.
-/

namespace DocBrowser.Json

/-! Blanks. -/

/-- Text of nothing but spaces, tabs, line feeds and carriage returns. -/
def Blank (text : Text) : Prop := ∀ c ∈ text, c = ' ' ∨ c = '\t' ∨ c = '\n' ∨ c = '\r'

instance (text : Text) : Decidable (Blank text) :=
  List.decidableBAll _ text

/-- A part of a text with the blanks around it. -/
structure Padded where
  before : Text
  text : Text
  after : Text
  blank_before : Blank before
  blank_after : Blank after

def Padded.written (part : Padded) : Text := part.before ++ part.text ++ part.after

/-! Numbers. -/

/-- At least one decimal digit. -/
def IsDigits (text : Text) : Prop := text ≠ [] ∧ ∀ c ∈ text, c.isDigit = true

instance (text : Text) : Decidable (IsDigits text) :=
  @instDecidableAnd _ _ inferInstance (List.decidableBAll _ text)

theorem IsDigits.exists_cons {text : Text} (some : IsDigits text) :
    ∃ c more, text = c :: more ∧ c.isDigit = true := by
  obtain ⟨c, more, rfl⟩ := List.exists_cons_of_ne_nil some.1
  exact ⟨c, more, rfl, some.2 c List.mem_cons_self⟩

structure Exponent where
  mark : Char
  sign : Option Char
  digits : Text
  mark_known : mark = 'e' ∨ mark = 'E'
  sign_known : ∀ c ∈ sign, c = '+' ∨ c = '-'
  digits_some : IsDigits digits

namespace Exponent

def written (exponent : Exponent) : Text :=
  exponent.mark :: (exponent.sign.toList ++ exponent.digits)

def value (exponent : Exponent) : Int :=
  if exponent.sign = some '-' then -(Nat.ofDigitChars 10 exponent.digits 0 : Int)
  else Nat.ofDigitChars 10 exponent.digits 0

end Exponent

/-- A number as it is written. A whole part of several digits does not begin with a zero. -/
structure Literal where
  negative : Bool
  whole : Text
  fraction : Option Text
  exponent : Option Exponent
  whole_some : IsDigits whole
  whole_trimmed : whole.head? = some '0' → whole = ['0']
  fraction_some : ∀ digits ∈ fraction, IsDigits digits

namespace Literal

/-- A literal after its whole part. -/
def tail (literal : Literal) : Text :=
  literal.fraction.elim [] ('.' :: ·) ++ literal.exponent.elim [] Exponent.written

def written (literal : Literal) : Text :=
  (if literal.negative then ['-'] else []) ++ (literal.whole ++ literal.tail)

/-- The decimal number that is written, without its sign. -/
def decimal (literal : Literal) : Decimal where
  digits := Nat.ofDigitChars 10 (literal.whole ++ literal.fraction.getD []) 0
  exponent := literal.exponent.elim 0 Exponent.value - (literal.fraction.getD []).length

/-- Whether a literal stands for an integer of 64 bits. Minus zero does not. -/
def IsInteger (literal : Literal) : Prop :=
  literal.fraction = none ∧ literal.exponent = none ∧
    if literal.negative then
      literal.decimal.digits ≠ 0 ∧ literal.decimal.digits ≤ 0x8000000000000000
    else literal.decimal.digits < 0x10000000000000000

instance (literal : Literal) : Decidable literal.IsInteger :=
  inferInstanceAs (Decidable (_ ∧ _ ∧ _))

/-- The number that a literal in range stands for. -/
def number (literal : Literal) : Number :=
  if literal.IsInteger then
    .integer (if literal.negative then -literal.decimal.digits else literal.decimal.digits)
  else .float ((Binary64.ofDecimal? literal.negative literal.decimal).getD default)

end Literal

/-! Strings. -/

/-- Characters that stand for themselves in a string. -/
def Plain (c : Char) : Prop := c ≠ '"' ∧ c ≠ '\\' ∧ 0x20 ≤ c.toNat

/-- Letters after a backslash with the characters that they stand for. -/
def shortEscapes : List (Char × Char) := [
  ('"', '"'), ('\\', '\\'), ('/', '/'), ('b', Char.ofNat 0x08), ('f', Char.ofNat 0x0C),
  ('n', '\n'), ('r', '\r'), ('t', '\t')]

/-- Four hexadecimal digits, in either case, and the number they stand for. -/
inductive FourDigits : Text → Nat → Prop
  | intro {a b c d : Char} {i j k l : Nat} : Hexadecimal.digit? a.toNat = some i →
      Hexadecimal.digit? b.toNat = some j → Hexadecimal.digit? c.toNat = some k →
      Hexadecimal.digit? d.toNat = some l →
      FourDigits [a, b, c, d] (((i * 16 + j) * 16 + k) * 16 + l)

/-- What can be written for a character in a string. A character may be given by its number, if that
is no surrogate, or by a pair of surrogates. -/
inductive SpellsChar : Text → Char → Prop
  | plain {c : Char} : Plain c → SpellsChar [c] c
  | short {letter c : Char} : (letter, c) ∈ shortEscapes → SpellsChar ['\\', letter] c
  | unit {digits : Text} {n : Nat} : FourDigits digits n → n < 0xD800 ∨ 0xDFFF < n →
      SpellsChar ('\\' :: 'u' :: digits) (Char.ofNat n)
  | pair {first second : Text} {high low : Nat} : FourDigits first high → FourDigits second low →
      0xD800 ≤ high ∧ high ≤ 0xDBFF → 0xDC00 ≤ low ∧ low ≤ 0xDFFF →
      SpellsChar ('\\' :: 'u' :: (first ++ '\\' :: 'u' :: second))
        (Char.ofNat (0x10000 + (high - 0xD800) * 0x400 + (low - 0xDC00)))

/-- What can be written between the quotes of a string. -/
inductive SpellsText : Text → Text → Prop
  | nil : SpellsText [] []
  | cons {written more text : Text} {c : Char} : SpellsChar written c → SpellsText more text →
      SpellsText (written ++ more) (c :: text)

namespace SpellsText

variable {spelled other text more : Text}

theorem append (first : SpellsText spelled text) (later : SpellsText other more) :
    SpellsText (spelled ++ other) (text ++ more) := by
  induction first with
  | nil => exact later
  | cons spells _ ih =>
    rw [List.append_assoc]
    exact .cons spells ih

end SpellsText

/-! Values. -/

/-- A member of an object as it is written; `spelled` stands between the quotes of its name. -/
structure Named where
  before : Text
  spelled : Text
  gap : Text
  held : Padded
  blank_before : Blank before
  blank_gap : Blank gap

def Named.written (member : Named) : Text :=
  member.before ++ '"' :: (member.spelled ++ '"' :: (member.gap ++ ':' :: member.held.written))

/-- Parts with a comma before each. -/
def continued (parts : List Text) : Text := parts.flatMap (',' :: ·)

/-- What can stand between brackets: parts with commas between them, or only blanks. -/
inductive Listed : List Text → Text → Prop
  | none {gap : Text} : Blank gap → Listed [] gap
  | some (first : Text) (later : List Text) : Listed (first :: later) (first ++ continued later)

theorem continued_cons (part : Text) (parts : List Text) :
    continued (part :: parts) = ',' :: (part ++ continued parts) := by
  simp [continued]

theorem length_continued (parts : List Text) :
    parts.length ≤ (continued parts).length ∧
      ∀ part ∈ parts, part.length < (continued parts).length := by
  induction parts with
  | nil => simp [continued]
  | cons part parts ih =>
    obtain ⟨count, inside⟩ := ih
    rw [continued_cons, List.length_cons, List.length_cons, List.length_append,
      List.forall_mem_cons]
    refine ⟨by omega, by omega, fun other there => ?_⟩
    have small := inside other there
    omega

theorem Listed.length_le {parts : List Text} {inside : Text} (listed : Listed parts inside) :
    parts.length ≤ inside.length + 1 ∧ ∀ part ∈ parts, part.length ≤ inside.length := by
  cases listed with
  | none => simp
  | some first later =>
    obtain ⟨count, each⟩ := length_continued later
    rw [List.length_append, List.length_cons, List.forall_mem_cons]
    refine ⟨by omega, by omega, fun part there => ?_⟩
    have small := each part there
    omega

/-- Whether a text without blanks around it stands for a value. -/
inductive Spells : Text → Json → Prop
  | null : Spells "null" .null
  | false : Spells "false" (.bool .false)
  | true : Spells "true" (.bool .true)
  | number (literal : Literal) : literal.decimal.InRange →
      Spells literal.written (.number literal.number)
  | string {spelled text : Text} : SpellsText spelled text →
      Spells ('"' :: (spelled ++ ['"'])) (.string text)
  | array {items : List (Padded × Json)} {inside : Text} :
      Listed (items.map fun item => item.1.written) inside →
      (∀ item ∈ items, Spells item.1.text item.2) →
      Spells ('[' :: (inside ++ [']'])) (.array (items.map Prod.snd))
  | object {members : List (Named × Text × Json)} {inside : Text} :
      Listed (members.map fun member => member.1.written) inside →
      (∀ member ∈ members, SpellsText member.1.spelled member.2.1) →
      (∀ member ∈ members, Spells member.1.held.text member.2.2) →
      Spells ('\x7b' :: (inside ++ ['\x7d'])) (.object (members.map Prod.snd))

end DocBrowser.Json
