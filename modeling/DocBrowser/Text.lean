/-!
Text is a list of characters and a document is a list of bytes. Paths, names, messages and
pages are all texts, so that cutting and joining them is recursion on lists.
-/

namespace DocBrowser

/-- A text, character by character. -/
abbrev Text := List Char

/-- A document as it is stored or sent. -/
abbrev Bytes := List UInt8

instance : Coe String Text := ⟨String.toList⟩

namespace Text

/-- Whether `part` occurs in the text as a contiguous piece. -/
def occurs (part : Text) : Text → Bool
  | [] => part.isEmpty
  | c :: rest => part.isPrefixOf (c :: rest) || occurs part rest

/-- The text after `lead`, if it begins with `lead`. -/
def after? (lead text : Text) : Option Text :=
  if lead.isPrefixOf text then some (text.drop lead.length) else none

def ofNat (n : Nat) : Text := Nat.toDigits 10 n

/-- Texts set side by side with a separator between them. -/
def joined (separator : Text) (parts : List Text) : Text := separator.intercalate parts

end Text

end DocBrowser
