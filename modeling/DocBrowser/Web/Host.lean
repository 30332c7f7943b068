import DocBrowser.Number.Digits
import DocBrowser.Route.Percent
import DocBrowser.Text.LetterCase
import DocBrowser.Web.Punycode

/-!
Hosts in web addresses: names, and numbers in the three forms that count as addresses of machines.
Each is brought into the one way of writing it.
-/

namespace DocBrowser.Web

/-! Addresses of four bytes. -/

/-- A part of such an address: decimal, octal after a zero, hexadecimal after `0x`. -/
def part? : Text → Option Nat
  | [] => none
  | '0' :: 'x' :: rest => (Digits.values? 16 rest).map (Digits.toNat 16)
  | '0' :: 'X' :: rest => (Digits.values? 16 rest).map (Digits.toNat 16)
  | '0' :: c :: rest => (Digits.values? 8 (c :: rest)).map (Digits.toNat 8)
  | text => (Digits.values? 10 text).map (Digits.toNat 10)

/-- The parts of a host name. A point at the end counts for nothing. -/
def parts (name : Text) : List Text :=
  let all := name.splitOn '.'
  if all.length ≠ 1 ∧ all.getLast? = some [] then all.dropLast else all

/-- Whether a name ends in a number, and so can only be an address of four bytes. -/
def endsInNumber (name : Text) : Bool :=
  match (parts name).getLast? with
  | none => false
  | some last => (!last.isEmpty && last.all Char.isDigit) || (part? last).isSome

/-- The number of four bytes that is written in at most four parts. All but the last are one byte
each, and the last one fills up the rest. -/
def fourBytes? (name : Text) : Option Nat := do
  let numbers ← (parts name).mapM part?
  let last ← numbers.getLast?
  let before := numbers.dropLast
  if 4 < numbers.length ∨ before.any (255 < ·) ∨ Nat.pow 256 (4 - before.length) ≤ last then none
  else some (Digits.toNat 256 before * Nat.pow 256 (4 - before.length) + last)

def writtenBytes (n : Nat) : Text :=
  Text.joined ['.'] ([n / 0x1000000, n / 0x10000 % 256, n / 256 % 256, n % 256].map Text.ofNat)

/-! Addresses of eight groups. -/

/-- A byte in decimal digits without superfluous zeros. -/
def plainByte? (text : Text) : Option Nat := do
  let digits ← Digits.values? 10 text
  let n := Digits.toNat 10 digits
  if digits.isEmpty ∨ (1 < digits.length ∧ digits.head? = some 0) ∨ 255 < n then none else some n

def bytesAsGroups? (text : Text) : Option (List Nat) :=
  match (text.splitOn '.').mapM plainByte? with
  | some [a, b, c, d] => some [256 * a + b, 256 * c + d]
  | _ => none

def group? (text : Text) : Option Nat :=
  if text.isEmpty ∨ 4 < text.length then none else (Digits.values? 16 text).map (Digits.toNat 16)

/-- Groups between colons; the last two may be written as four bytes. -/
def groups? : List Text → Option (List Nat)
  | [] => some []
  | [last] => ((group? last).map fun n => [n]).or (bytesAsGroups? last)
  | text :: rest => do
    let group ← group? text
    let groups ← groups? rest
    some (group :: groups)

def side? (text : Text) : Option (List Nat) :=
  if text.isEmpty then some [] else groups? (text.splitOn ':')

def cutAtGap : Text → Option (Text × Text)
  | ':' :: ':' :: rest => some ([], rest)
  | c :: rest => (cutAtGap rest).map fun (before, after) => (c :: before, after)
  | [] => none

/-- The eight groups of an address. A double colon stands for as many zeros as are missing. -/
def eightGroups? (text : Text) : Option (List Nat) :=
  match cutAtGap text with
  | none => (groups? (text.splitOn ':')).filter (·.length = 8)
  | some (before, after) => do
    if before.contains '.' then none
    let before ← side? before
    let after ← side? after
    let missing := 8 - (before.length + after.length)
    if missing = 0 then none else some (before ++ List.replicate missing 0 ++ after)

/-- The length of the zeros at each place of an address. -/
def zeroRuns : List Nat → List Nat
  | [] => []
  | n :: rest => ((n :: rest).takeWhile (· == 0)).length :: zeroRuns rest

def colons (groups : List Nat) : Text := Text.joined [':'] (groups.map Hexadecimal.ofNat)

/-- Eight groups. The first of the longest runs of at least two zeros is left out. -/
def writtenGroups (groups : List Nat) : Text :=
  let runs := zeroRuns groups
  let longest := (runs.max?).getD 0
  if longest < 2 then colons groups
  else
    let place := runs.idxOf longest
    colons (groups.take place) ++ "::" ++ colons (groups.drop (place + longest))

/-! Hosts. -/

def isForbidden (c : Char) : Bool :=
  c.toNat ≤ 0x20 || c.toNat == 0x7F || ("%#/:<>?@[\\]^|" : Text).contains c

def name? (text : Text) : Option Text := do
  let decoded ← Utf8.decode? (Percent.decodeBytes (Utf8.encode text))
  let labels := (decoded.flatMap LetterCase.lowerChar).splitOn '.'
  let name := Text.joined ['.'] (labels.map Punycode.label)
  if name.isEmpty ∨ name.any isForbidden then none else some name

/-- A host as it is written in the end, if it is one. -/
def host? (text : Text) : Option Text :=
  match text with
  | '[' :: rest =>
    if rest.getLast? = some ']' then
      (eightGroups? rest.dropLast).map fun groups => '[' :: writtenGroups groups ++ [']']
    else none
  | _ => do
    let name ← name? text
    if endsInNumber name then (fourBytes? name).map writtenBytes else some name

end DocBrowser.Web
