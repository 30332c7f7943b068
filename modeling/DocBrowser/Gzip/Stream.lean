import DocBrowser.Text

/-!
Compressed data as a stream of bits, the least significant bit of every byte first.
-/

namespace DocBrowser.Gzip

inductive DataFault
  | truncated
  | corrupt
  deriving DecidableEq

/-- The bits of a byte, the least significant first. -/
def bitsOfByte (b : UInt8) : List Bool := (List.range 8).map b.toNat.testBit

/-- Unread input: the bits left of a byte that is begun, and the bytes after it. -/
structure Stream where
  begun : List Bool
  bytes : Bytes

namespace Stream

def ofBytes (bytes : Bytes) : Stream := ⟨[], bytes⟩

def bits (s : Stream) : List Bool := s.begun ++ s.bytes.flatMap bitsOfByte

def next (s : Stream) : Except DataFault (Bool × Stream) :=
  match s.begun, s.bytes with
  | b :: begun, bytes => .ok (b, ⟨begun, bytes⟩)
  | [], byte :: bytes =>
    match bitsOfByte byte with
    | b :: begun => .ok (b, ⟨begun, bytes⟩)
    | [] => .error .truncated
  | [], [] => .error .truncated

/-- A number of `width` bits, the least significant first. -/
def field : Nat → Stream → Except DataFault (Nat × Stream)
  | 0, s => .ok (0, s)
  | width + 1, s => do
    let (b, s) ← s.next
    let (n, s) ← field width s
    .ok (b.toNat + 2 * n, s)

def aligned (s : Stream) : Stream := ⟨[], s.bytes⟩

/-- The next `count` whole bytes, after the begun one. -/
def takeBytes (count : Nat) (s : Stream) : Except DataFault (Bytes × Stream) :=
  if s.bytes.length < count then .error .truncated
  else .ok (s.bytes.take count, ⟨[], s.bytes.drop count⟩)

end Stream

end DocBrowser.Gzip
