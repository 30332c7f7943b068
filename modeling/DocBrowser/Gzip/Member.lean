import DocBrowser.Gzip.Checksum
import DocBrowser.Gzip.Inflate

/-!
A gzip member: a header with optional fields, compressed data, and the checksum and length of what
it expands to. Whatever follows the first member is ignored.
-/

namespace DocBrowser.Gzip

inductive Fault
  | badHeader
  | fieldTooLong
  /-- The bytes end inside the header or the trailer. -/
  | ended
  | data (fault : DataFault)
  | mismatch
  deriving DecidableEq

def Fault.message : Fault → Text
  | .badHeader => "invalid gzip header"
  | .fieldTooLong => "gzip header field too long"
  | .ended => "unexpected end of file"
  | .data .truncated => "incomplete deflate stream"
  | .data .corrupt => "corrupt deflate stream"
  | .mismatch => "corrupt gzip stream does not have a matching checksum"

def magic : Bytes := [0x1F, 0x8B]

def isMember (bytes : Bytes) : Bool := magic.isPrefixOf bytes

/-- A number of two bytes, the lower one first. -/
def short? : Bytes → Option (Nat × Bytes)
  | a :: b :: rest => some (a.toNat + 0x100 * b.toNat, rest)
  | _ => none

/-- A number of four bytes, the lowest one first. -/
def long? (bytes : Bytes) : Option (Nat × Bytes) := do
  let (low, rest) ← short? bytes
  let (high, rest) ← short? rest
  some (low + 0x10000 * high, rest)

def maxField : Nat := 65535

/-- The bytes after a field that ends with a zero byte. -/
def afterZero (bytes : Bytes) : Except Fault Bytes :=
  let field := bytes.takeWhile (· != 0)
  if maxField < field.length then .error .fieldTooLong
  else match bytes.dropWhile (· != 0) with
    | [] => .error .ended
    | _ :: rest => .ok rest

def flag (flags : UInt8) (bit : Nat) : Bool := flags.toNat.testBit bit

def afterExtra (flags : UInt8) (bytes : Bytes) : Except Fault Bytes :=
  if flag flags 2 then
    match short? bytes with
    | none => .error .ended
    | some (length, rest) =>
      if rest.length < length then .error .ended else .ok (rest.drop length)
  else .ok bytes

/-- The bytes after a text of the header, which need not be there. -/
def afterText (present : Bool) (bytes : Bytes) : Except Fault Bytes :=
  if present then afterZero bytes else .ok bytes

/-- The bytes after the checksum of the header itself, which need not be there; `whole` begins with
the header. -/
def afterCheck (flags : UInt8) (whole bytes : Bytes) : Except Fault Bytes :=
  if flag flags 1 then
    match short? bytes with
    | none => .error .ended
    | some (stored, after) =>
      let header := whole.take (whole.length - bytes.length)
      if stored = (checksum header).toNat % 0x10000 then .ok after else .error .mismatch
  else .ok bytes

/-- The bytes after a header whose first two bytes are right; `whole` begins with the header. -/
def afterHeader (whole : Bytes) : Except Fault Bytes :=
  if whole.length < 10 then .error .ended
  else
    let method := whole.getD 2 0
    let flags := whole.getD 3 0
    if method ≠ 8 ∨ flag flags 5 ∨ flag flags 6 ∨ flag flags 7 then .error .badHeader
    else do
      let rest ← afterExtra flags (whole.drop 10)
      let rest ← afterText (flag flags 3) rest
      let rest ← afterText (flag flags 4) rest
      afterCheck flags whole rest

def checkTrailer (content : Bytes) (bytes : Bytes) : Except Fault Unit :=
  if bytes.length < 8 then .error .ended
  else match long? bytes with
    | none => .error .ended
    | some (sum, rest) =>
      match long? rest with
      | none => .error .ended
      | some (length, _) =>
        if sum = (checksum content).toNat ∧ length = content.length % 0x100000000 then .ok ()
        else .error .mismatch

def expand (bytes : Bytes) : Except Fault Bytes := do
  let data ← afterHeader bytes
  let (out, trailer) ← (inflate data).mapError .data
  let content := out.toList
  checkTrailer content trailer
  .ok content

end DocBrowser.Gzip
