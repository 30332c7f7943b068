import DocBrowser.Number.Hexadecimal
import DocBrowser.Text.Utf8

/-!
Percent-encoding: in a path, a byte may be written as a percent sign and two hexadecimal digits.
A segment is decoded as a whole or, if that gives no text, not at all.
-/

namespace DocBrowser.Percent

def sign : UInt8 := 0x25

/-- Replaces every escape by its byte, from left to right. A percent sign without two digits after
it stands for itself. -/
def decodeBytes : Bytes → Bytes
  | [] => []
  | [b] => [b]
  | [b, c] => [b, c]
  | b :: high :: low :: rest =>
    if b = sign then
      match Hexadecimal.byte? high low with
      | some byte => byte :: decodeBytes rest
      | none => b :: decodeBytes (high :: low :: rest)
    else b :: decodeBytes (high :: low :: rest)

/-- The text that a segment stands for. A segment whose bytes are no text stands for itself. -/
def decode (segment : Text) : Text :=
  (Utf8.decode? (decodeBytes (Utf8.encode segment))).getD segment

end DocBrowser.Percent
