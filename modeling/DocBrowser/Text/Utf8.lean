import DocBrowser.Text

/-!
The byte form of texts: one to four bytes a character, never longer than needed and never for a
surrogate. `decode` refuses everything else and says where and why.
-/

namespace DocBrowser.Utf8

def encodeChar (c : Char) : Bytes :=
  let n := c.toNat
  if n < 0x80 then [UInt8.ofNat n]
  else if n < 0x800 then [UInt8.ofNat (0xC0 + n / 0x40), UInt8.ofNat (0x80 + n % 0x40)]
  else if n < 0x10000 then
    [UInt8.ofNat (0xE0 + n / 0x1000), UInt8.ofNat (0x80 + n / 0x40 % 0x40),
      UInt8.ofNat (0x80 + n % 0x40)]
  else
    [UInt8.ofNat (0xF0 + n / 0x40000), UInt8.ofNat (0x80 + n / 0x1000 % 0x40),
      UInt8.ofNat (0x80 + n / 0x40 % 0x40), UInt8.ofNat (0x80 + n % 0x40)]

def encode (text : Text) : Bytes := text.flatMap encodeChar

/-- Why the bytes at some place do not begin a character. -/
inductive Fault
  /-- The first `length` bytes begin no character, whatever follows them. -/
  | malformed (length : Nat)
  | incomplete
  deriving DecidableEq

/-- A character of which some bytes are read: how many, the bits they gave, how many are still to
come, and the bounds of the next one. Narrow bounds after certain first bytes keep out long forms,
surrogates and numbers past the last character. -/
structure Begun where
  taken : Nat := 1
  bits : Nat
  following : Nat
  low : Nat := 0x80
  high : Nat := 0xBF

def begun? (b : Nat) : Option Begun :=
  if b < 0xC2 then none
  else if b < 0xE0 then some { bits := b - 0xC0, following := 1 }
  else if b = 0xE0 then some { bits := 0, following := 2, low := 0xA0 }
  else if b = 0xED then some { bits := 0xD, following := 2, high := 0x9F }
  else if b < 0xF0 then some { bits := b - 0xE0, following := 2 }
  else if b = 0xF0 then some { bits := 0, following := 3, low := 0x90 }
  else if b < 0xF4 then some { bits := b - 0xF0, following := 3 }
  else if b = 0xF4 then some { bits := 4, following := 3, high := 0x8F }
  else none

/-- Reads the bytes after those of `begun`, if a character is begun. The characters read so far are
in `done`, the last one first. A fault comes with the number of bytes from its character on. -/
def read (begun : Option Begun) (done : Text) : Bytes → Except (Nat × Fault) Text
  | [] =>
    match begun with
    | none => .ok done.reverse
    | some part => .error (part.taken, .incomplete)
  | b :: rest =>
    match begun with
    | none =>
      if b.toNat < 0x80 then read none (Char.ofNat b.toNat :: done) rest
      else match begun? b.toNat with
        | some part => read (some part) done rest
        | none => .error (rest.length + 1, .malformed 1)
    | some part =>
      if part.low ≤ b.toNat ∧ b.toNat ≤ part.high then
        let bits := part.bits * 0x40 + (b.toNat - 0x80)
        if part.following = 1 then read none (Char.ofNat bits :: done) rest
        else read (some { taken := part.taken + 1, bits, following := part.following - 1 })
          done rest
      else .error (part.taken + (rest.length + 1), .malformed part.taken)

/-- The text that the bytes stand for, or the byte position and kind of the first fault. -/
def decode (bytes : Bytes) : Except (Nat × Fault) Text :=
  (read none [] bytes).mapError fun (remaining, fault) => (bytes.length - remaining, fault)

def decode? (bytes : Bytes) : Option Text := (decode bytes).toOption

def Fault.message (position : Nat) : Fault → Text
  | .malformed length =>
    "invalid utf-8 sequence of " ++ Text.ofNat length ++ " bytes from index " ++
      Text.ofNat position
  | .incomplete => "incomplete utf-8 byte sequence from index " ++ Text.ofNat position

end DocBrowser.Utf8
