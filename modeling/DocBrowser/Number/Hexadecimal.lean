import DocBrowser.Text

/-!
Hexadecimal digits, read in either case and written in lower case.
-/

namespace DocBrowser.Hexadecimal

def digit? (n : Nat) : Option Nat :=
  if 0x30 ≤ n ∧ n ≤ 0x39 then some (n - 0x30)
  else if 0x41 ≤ n ∧ n ≤ 0x46 then some (n - 0x37)
  else if 0x61 ≤ n ∧ n ≤ 0x66 then some (n - 0x57)
  else none

def byte? (high low : UInt8) : Option UInt8 :=
  match digit? high.toNat, digit? low.toNat with
  | some h, some l => some (UInt8.ofNat (h * 16 + l))
  | _, _ => none

def bytes? : Bytes → Option Bytes
  | [] => some []
  | [_] => none
  | high :: low :: rest =>
    match byte? high low with
    | some byte => (bytes? rest).map (byte :: ·)
    | none => none

def ofByte (b : UInt8) : Text := [Nat.digitChar (b.toNat / 16), Nat.digitChar (b.toNat % 16)]

def ofNat (n : Nat) : Text := Nat.toDigits 16 n

end DocBrowser.Hexadecimal
