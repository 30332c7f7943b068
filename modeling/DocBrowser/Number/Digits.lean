import DocBrowser.Number.Hexadecimal

/-!
Numbers written in digits of a base up to sixteen.
-/

namespace DocBrowser.Digits

def value? (base : Nat) (c : Char) : Option Nat :=
  (Hexadecimal.digit? c.toNat).filter (· < base)

/-- The values of all characters of a text, if they are digits. -/
def values? (base : Nat) (text : Text) : Option (List Nat) := text.mapM (value? base)

/-- The number that digits stand for, the first of them weighing most. -/
def toNat (base : Nat) (digits : List Nat) : Nat := digits.foldl (fun n d => base * n + d) 0

end DocBrowser.Digits
