import DocBrowser.Text

/-!
The cyclic redundancy check of 32 bits, least significant bit first.
-/

namespace DocBrowser.Gzip

/-- Divides by the generator one bit further. -/
def checksumBit (c : UInt32) : UInt32 :=
  if c &&& 1 = 1 then (c >>> 1) ^^^ 0xEDB88320 else c >>> 1

def checksumByte (c : UInt32) (b : UInt8) : UInt32 :=
  Nat.repeat checksumBit 8 (c ^^^ b.toUInt32)

def checksum (bytes : Bytes) : UInt32 := bytes.foldl checksumByte 0xFFFFFFFF ^^^ 0xFFFFFFFF

end DocBrowser.Gzip
