import DocBrowser.Proofs.Json.Layout
import DocBrowser.Proofs.Json.Scalars

/-!
The characters of written values. Whatever a value holds, its written forms have no control
characters but line breaks, because strings escape all of them.
-/

namespace DocBrowser

/-- Without control characters other than line breaks. -/
def Text.Printable (text : Text) : Prop := ∀ c ∈ text, c = '\n' ∨ 0x20 ≤ c.toNat

namespace Text

instance (text : Text) : Decidable (Printable text) :=
  List.decidableBAll (fun c => c = '\n' ∨ 0x20 ≤ c.toNat) text

variable {c : Char} {text first rest : Text}

@[simp]
theorem printable_nil : Printable [] := fun _ there => absurd there List.not_mem_nil

@[simp]
theorem printable_cons_iff :
    Printable (c :: text) ↔ (c = '\n' ∨ 0x20 ≤ c.toNat) ∧ Printable text :=
  List.forall_mem_cons

@[simp]
theorem printable_append_iff : Printable (first ++ rest) ↔ Printable first ∧ Printable rest :=
  List.forall_mem_append

theorem printable_replicate (count : Nat) (printable : c = '\n' ∨ 0x20 ≤ c.toNat) :
    Printable (List.replicate count c) := by
  intro d there
  rwa [List.eq_of_mem_replicate there]

theorem printable_of_isDigit (digits : ∀ c ∈ text, c.isDigit = true) : Printable text := by
  intro c there
  have ⟨low, _⟩ := Json.Reader.digit_bounds (digits c there)
  exact .inr (by omega)

theorem printable_toDigits (n : Nat) : Printable (Nat.toDigits 10 n) :=
  printable_of_isDigit fun _ there => Json.Reader.isDigit_of_mem_ofNat there

theorem Printable.sublist {part : Text} (printable : Printable text)
    (within : List.Sublist part text) : Printable part :=
  fun c there => printable c (within.subset there)

end Text

open Text

/-! Numbers. -/

theorem Decimal.printable_positional {digits : Text} (printable : Printable digits)
    (exponent : Int) : Printable (Decimal.positional digits exponent) := by
  have zeros := fun count => printable_replicate (c := '0') count (by decide)
  have whole := fun count => printable.sublist (List.take_sublist count digits)
  have fraction := fun count => printable.sublist (List.drop_sublist count digits)
  rw [Decimal.positional]
  split
  · simp only [printable_append_iff]
    exact ⟨⟨by decide, zeros _⟩, printable⟩
  · simp only [printable_append_iff]
    refine ⟨⟨⟨whole _, zeros _⟩, by decide⟩, ?_⟩
    split
    · decide
    · exact fraction _

theorem Decimal.printable_exponential {digits : Text} (printable : Printable digits)
    (exponent : Int) : Printable (Decimal.exponential digits exponent) := by
  have first := printable.sublist (List.take_sublist 1 digits)
  have others := printable.sublist (List.drop_sublist 1 digits)
  rw [Decimal.exponential]
  simp only [printable_append_iff]
  refine ⟨⟨⟨first, ?_⟩, ?_⟩, printable_toDigits _⟩
  · split
    · exact others
    · exact printable_cons_iff.mpr ⟨by decide, others⟩
  · split <;> decide

theorem Number.printable_written (n : Number) : Printable n.written := by
  cases n with
  | integer n =>
    rw [Number.written, printable_append_iff]
    refine ⟨?_, printable_toDigits _⟩
    split <;> decide
  | float x =>
    rw [Number.written, Binary64.written, printable_append_iff]
    constructor
    · split <;> decide
    split
    · decide
    rw [Decimal.written]
    dsimp only [Decimal.scientific]
    split
    · exact Decimal.printable_positional (printable_toDigits _) _
    · exact Decimal.printable_exponential (printable_toDigits _) _

/-! Values. -/

namespace Json

variable {layout : Layout} {level : Nat}

theorem printable_ofByte (b : UInt8) : Printable (Hexadecimal.ofByte b) := by
  have digits : ∀ digit < 0x10, 0x20 ≤ (Nat.digitChar digit).toNat := by decide
  have byte := b.toNat_lt
  have high := digits (b.toNat / 16) (by omega)
  have low := digits (b.toNat % 16) (by omega)
  simp [Hexadecimal.ofByte, high, low]

theorem printable_of_escape? {c : Char} {written : Text} (escaped : escape? c = some written) :
    Printable written := by
  rw [escape?] at escaped
  iterate 7
    split at escaped
    · cases escaped
      decide
  split at escaped
  · cases escaped
    exact printable_append_iff.mpr ⟨by decide, printable_ofByte _⟩
  · cases escaped

theorem printable_writtenString (text : Text) : Printable (writtenString text) := by
  have inner : Printable (text.flatMap writtenChar) := by
    intro d there
    obtain ⟨c, _, inside⟩ := List.mem_flatMap.mp there
    rw [writtenChar] at inside
    cases escaped : escape? c with
    | none =>
      have plain : ¬ c.toNat < 0x20 := by
        unfold escape? at escaped
        grind
      rw [escaped] at inside
      obtain rfl := List.mem_singleton.mp inside
      exact .inr (Nat.le_of_not_lt plain)
    | some written =>
      rw [escaped] at inside
      exact printable_of_escape? escaped d inside
  simp [writtenString, inner]

theorem printable_blank {text : Text} (spaces : ∀ c ∈ text, c = ' ' ∨ c = '\n') :
    Printable text := by
  intro c there
  rcases spaces c there with rfl | rfl
  · decide
  · decide

theorem printable_following {parts : List Text} {closing : Char} (bracket : Printable [closing])
    (each : ∀ part ∈ parts, Printable part) :
    Printable (layout.following level closing parts) := by
  have line := fun level => printable_blank (layout.line_blank level)
  induction parts with
  | nil => simpa [line] using bracket
  | cons part rest ih =>
    have ⟨first, later⟩ := List.forall_mem_cons.mp each
    simp [line, first, ih later]

theorem printable_enclosed {parts : List Text} {closing : Char} (bracket : Printable [closing])
    (each : ∀ part ∈ parts, Printable part) :
    Printable (layout.enclosed level closing parts) := by
  cases parts with
  | nil => exact bracket
  | cons part rest =>
    have ⟨first, later⟩ := List.forall_mem_cons.mp each
    rw [enclosed_cons, printable_append_iff, printable_append_iff]
    exact ⟨printable_blank (layout.line_blank _), first, printable_following bracket later⟩

/-- No written form has a control character, whatever the strings in the value hold. -/
theorem printable_laidOut (value : Json) (layout : Layout) (level : Nat) :
    Printable (value.laidOut layout level) := by
  induction value generalizing level with
  | null => exact (by decide : Printable "null")
  | bool b =>
    have words : ∀ b : Bool, Printable (if b then "true" else "false") := by decide
    exact words b
  | number n => exact n.printable_written
  | string text => exact printable_writtenString text
  | array items ih =>
    rw [laidOut_array, printable_cons_iff]
    refine ⟨by decide, printable_enclosed (by decide) ?_⟩
    simpa using fun item there => ih item there (level + 1)
  | object members ih =>
    rw [laidOut_object, printable_cons_iff]
    refine ⟨by decide, printable_enclosed (by decide) ?_⟩
    intro part there
    obtain ⟨member, among, rfl⟩ := List.mem_map.mp there
    have gap := printable_blank layout.gap_blank
    simp [Layout.member, printable_writtenString, gap, ih member among (level + 1)]

theorem printable_pretty (value : Json) : Printable value.pretty := by
  exact printable_laidOut value .lines 0

end Json

end DocBrowser
