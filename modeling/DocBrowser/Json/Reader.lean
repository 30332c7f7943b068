import DocBrowser.Json.Fault
import DocBrowser.Number.Hexadecimal
import DocBrowser.Text.Utf8

/-!
Reading JSON from bytes. Objects and arrays nest at most as deep as a budget allows; `limit` bounds
the rounds of a loop, and the length of the document is always enough.
-/

namespace DocBrowser.Json.Reader

/-- A reader takes the input still to be read and gives a value with what is left of the input, or a
fault. -/
abbrev Read (α : Type) := Bytes → Except Fault (α × Bytes)

/-- A fault at the end of what is read, in front of `rest`. -/
def stop {α : Type} (cause : Cause) (rest : Bytes) : Except Fault α :=
  .error { cause, remaining := rest.length }

def ascii (c : Char) : UInt8 := UInt8.ofNat c.toNat

/-- Space, tab, line feed and carriage return. -/
def isBlankByte (b : UInt8) : Bool := b == 0x20 || b == 0x09 || b == 0x0A || b == 0x0D

def skipBlanks (input : Bytes) : Bytes := input.dropWhile isBlankByte

def isDigit (b : UInt8) : Bool := 0x30 ≤ b && b ≤ 0x39

def digitValue (b : UInt8) : Nat := b.toNat - 0x30

def natOfDigits (digits : Bytes) : Nat := digits.foldl (fun n d => 10 * n + digitValue d) 0

def hexValue? (b : UInt8) : Option Nat := Hexadecimal.digit? b.toNat

/-- The rest of a word whose first letter is read. -/
def word {α : Type} (value : α) : Bytes → Read α
  | [], input => .ok (value, input)
  | _ :: _, [] => stop .endInValue []
  | letter :: letters, b :: rest =>
    if b = letter then word value letters rest else stop .expectedWord rest

/-! Numbers. -/

/-- The largest exponent whose digits are all looked at before the number is refused. -/
def exponentLimit : Nat := 2147483647

/-- Where the exponent of a number that is out of range is given up: after the digit with which it
passes the limit, or else after its last one. The digits before stand for `n`. -/
def afterExponent (n : Nat) : Bytes → Bytes
  | [] => []
  | b :: rest =>
    if isDigit b then
      let n := 10 * n + digitValue b
      if exponentLimit < n then rest else afterExponent n rest
    else b :: rest

/-- The floating-point number `± digits * 10 ^ exponent`, read up to `rest`. -/
def floatNumber (negative : Bool) (digits : Nat) (exponent : Int) : Read Number := fun rest =>
  match Binary64.ofDecimal? negative ⟨digits, exponent⟩ with
  | some x => .ok (.float x, rest)
  | none => stop .numberOutOfRange rest

/-- A sign of an exponent: whether it is negative, and the input after it. -/
def exponentSign : Bytes → Bool × Bytes
  | [] => (false, [])
  | b :: rest =>
    if b = ascii '+' then (false, rest)
    else if b = ascii '-' then (true, rest)
    else (false, b :: rest)

/-- What follows the `e` of a number whose digits before it stand for `digits * 10 ^ exponent`. -/
def exponentPart (negative : Bool) (digits : Nat) (exponent : Int) : Read Number := fun input =>
  let (down, input) := exponentSign input
  match input with
  | [] => stop .endInValue []
  | b :: rest =>
    if isDigit b then
      let n := natOfDigits (input.takeWhile isDigit)
      match Binary64.ofDecimal? negative ⟨digits, if down then exponent - n else exponent + n⟩ with
      | some x => .ok (.float x, input.dropWhile isDigit)
      | none => stop .numberOutOfRange (afterExponent 0 input)
    else stop .invalidNumber rest

def isExponentMark (b : UInt8) : Bool := b == ascii 'e' || b == ascii 'E'

/-- What follows the fraction of a number. -/
def afterFraction (negative : Bool) (digits : Nat) (exponent : Int) : Read Number := fun input =>
  match input with
  | [] => floatNumber negative digits exponent []
  | b :: rest =>
    if isExponentMark b then exponentPart negative digits exponent rest
    else floatNumber negative digits exponent input

/-- What follows the point of a number whose whole part has the given digits. -/
def fractionPart (negative : Bool) (whole : Bytes) : Read Number := fun input =>
  let fraction := input.takeWhile isDigit
  let rest := input.dropWhile isDigit
  if fraction.isEmpty then
    match rest with
    | [] => stop .endInValue []
    | _ :: rest => stop .invalidNumber rest
  else afterFraction negative (natOfDigits (whole ++ fraction)) (-(fraction.length : Int)) rest

/-- A whole number: an integer if it fits 64 bits, with or without sign; minus zero and all others
are floating-point. -/
def wholeNumber (negative : Bool) (n : Nat) : Read Number := fun rest =>
  if negative then
    if n ≠ 0 ∧ n ≤ 0x8000000000000000 then .ok (.integer (-n), rest) else floatNumber true n 0 rest
  else if n < 0x10000000000000000 then .ok (.integer n, rest)
  else floatNumber false n 0 rest

/-- What follows the whole part of a number, whose digits are given. -/
def afterWhole (negative : Bool) (whole : Bytes) : Read Number := fun input =>
  match input with
  | [] => wholeNumber negative (natOfDigits whole) []
  | b :: rest =>
    if isDigit b then stop .invalidNumber rest
    else if b = ascii '.' then fractionPart negative whole rest
    else if isExponentMark b then exponentPart negative (natOfDigits whole) 0 rest
    else wholeNumber negative (natOfDigits whole) input

def number (negative : Bool) : Read Number := fun input =>
  match input with
  | [] => stop .endInValue []
  | b :: rest =>
    if ¬ isDigit b then stop .invalidNumber rest
    else if b = ascii '0' then afterWhole negative [b] rest
    else afterWhole negative (input.takeWhile isDigit) (input.dropWhile isDigit)

/-! Strings. -/

/-- Bytes that stand for themselves inside a string. -/
def isPlainByte (b : UInt8) : Bool := b != ascii '"' && b != ascii '\\' && 0x20 ≤ b

def hexUnit : Read Nat
  | a :: b :: c :: d :: rest =>
    match hexValue? a, hexValue? b, hexValue? c, hexValue? d with
    | some a, some b, some c, some d => .ok (((a * 16 + b) * 16 + c) * 16 + d, rest)
    | _, _, _, _ => stop .invalidEscape rest
  | _ => stop .endInString []

/-- The second escape of a pair, after the surrogate `high`. -/
def lowSurrogate (high : Nat) : Read Char
  | [] => stop .endInString []
  | b :: rest =>
    if b ≠ ascii '\\' then stop .unpairedEscape rest
    else match rest with
      | [] => stop .endInString []
      | c :: rest =>
        if c ≠ ascii 'u' then stop .unpairedEscape rest
        else do
          let (low, rest) ← hexUnit rest
          if low < 0xDC00 ∨ 0xDFFF < low then stop .loneSurrogate rest
          else .ok (Char.ofNat (0x10000 + (high - 0xD800) * 0x400 + (low - 0xDC00)), rest)

/-- A character given by its number, after the `u`. -/
def unicodeEscape : Read Char := fun input => do
  let (n, rest) ← hexUnit input
  if 0xDC00 ≤ n ∧ n ≤ 0xDFFF then stop .loneSurrogate rest
  else if n < 0xD800 ∨ 0xDBFF < n then .ok (Char.ofNat n, rest)
  else lowSurrogate n rest

def shortEscape? (b : UInt8) : Option Char :=
  if b = ascii '"' then some '"'
  else if b = ascii '\\' then some '\\'
  else if b = ascii '/' then some '/'
  else if b = ascii 'b' then some (Char.ofNat 0x08)
  else if b = ascii 'f' then some (Char.ofNat 0x0C)
  else if b = ascii 'n' then some '\n'
  else if b = ascii 'r' then some '\r'
  else if b = ascii 't' then some '\t'
  else none

/-- The character of an escape, after the backslash. -/
def escape : Read Char
  | [] => stop .endInString []
  | b :: rest =>
    match shortEscape? b with
    | some c => .ok (c, rest)
    | none => if b = ascii 'u' then unicodeEscape rest else stop .invalidEscape rest

/-- The bytes of a string after its opening quote, with its escapes replaced; `done` holds those
before, the last one first. -/
def stringBytes (done : Bytes) : Nat → Read Bytes
  | 0, _ => stop .endInString []
  | limit + 1, input =>
    let done := (input.takeWhile isPlainByte).reverseAux done
    match input.dropWhile isPlainByte with
    | [] => stop .endInString []
    | b :: rest =>
      if b = ascii '"' then .ok (done.reverse, rest)
      else if b = ascii '\\' then do
        let (c, rest) ← escape rest
        stringBytes ((Utf8.encodeChar c).reverseAux done) limit rest
      else stop .controlCharacter rest

/-- Where a string whose bytes are no text goes wrong: after the first byte that begins no
character. -/
def notText {α : Type} (input rest : Bytes) : Except Fault α :=
  match Utf8.decode (input.take (input.length - rest.length)) with
  | .error (position, _) => stop .notUtf8 (input.drop (position + 1))
  | .ok _ => stop .notUtf8 rest

/-- A string after its opening quote. Whether it is a text is looked at once it is closed. -/
def string (limit : Nat) : Read Text := fun input => do
  let (bytes, rest) ← stringBytes [] limit input
  match Utf8.decode? bytes with
  | some text => .ok (text, rest)
  | none => notText input rest

/-! Arrays and objects. -/

/-- The items of an array after the last one in `done`, which holds them in reverse. -/
def moreItems {α : Type} (item : Read α) (done : List α) : Nat → Read (List α)
  | 0, _ => stop .endInArray []
  | limit + 1, input =>
    match skipBlanks input with
    | [] => stop .endInArray []
    | b :: rest =>
      if b = ascii ']' then .ok (done.reverse, rest)
      else if b = ascii ',' then
        match skipBlanks rest with
        | [] => stop .endInValue []
        | c :: after =>
          if c = ascii ']' then stop .trailingComma after
          else do
            let (value, rest) ← item (c :: after)
            moreItems item (value :: done) limit rest
      else stop .expectedArrayComma rest

def arrayBody {α : Type} (limit : Nat) (item : Read α) : Read (List α) := fun input =>
  match skipBlanks input with
  | [] => stop .endInArray []
  | b :: rest =>
    if b = ascii ']' then .ok ([], rest)
    else do
      let (value, rest) ← item (b :: rest)
      moreItems item [value] limit rest

def member {α : Type} (limit : Nat) (value : Read α) : Read (Text × α) := fun input => do
  let (name, rest) ← string limit input
  match skipBlanks rest with
  | [] => stop .endInObject []
  | b :: rest =>
    if b = ascii ':' then do
      let (held, rest) ← value rest
      .ok ((name, held), rest)
    else stop .expectedColon rest

/-- The members of an object after the last one in `done`, which holds them in reverse. -/
def moreMembers {α : Type} (whole : Nat) (value : Read α) (done : List (Text × α)) :
    Nat → Read (List (Text × α))
  | 0, _ => stop .endInObject []
  | limit + 1, input =>
    match skipBlanks input with
    | [] => stop .endInObject []
    | b :: rest =>
      if b = ascii '\x7d' then .ok (done.reverse, rest)
      else if b = ascii ',' then
        match skipBlanks rest with
        | [] => stop .endInValue []
        | c :: after =>
          if c = ascii '"' then do
            let (held, rest) ← member whole value after
            moreMembers whole value (held :: done) limit rest
          else if c = ascii '\x7d' then stop .trailingComma after
          else stop .nameNotString after
      else stop .expectedObjectComma rest

def objectBody {α : Type} (limit : Nat) (value : Read α) : Read (List (Text × α)) := fun input =>
  match skipBlanks input with
  | [] => stop .endInObject []
  | b :: rest =>
    if b = ascii '\x7d' then .ok ([], rest)
    else if b = ascii '"' then do
      let (held, rest) ← member limit value rest
      moreMembers limit value [held] limit rest
    else stop .nameNotString rest

/-! Values. -/

def letters (text : Text) : Bytes := text.map ascii

def scalar (limit : Nat) (first : UInt8) : Read Scalar := fun input =>
  if first = ascii 'n' then word .null (letters "ull") input
  else if first = ascii 't' then word (.bool true) (letters "rue") input
  else if first = ascii 'f' then word (.bool false) (letters "alse") input
  else if first = ascii '-' then do
    let (n, rest) ← number true input
    .ok (.number n, rest)
  else if isDigit first then do
    let (n, rest) ← number false (first :: input)
    .ok (.number n, rest)
  else if first = ascii '"' then do
    let (text, rest) ← string limit input
    .ok (.string text, rest)
  else stop .expectedValue input

/-- A value; `inner` reads the values inside an array or object, if they may nest any deeper. -/
def valueWith (limit : Nat) (inner : Option (Read Json)) : Read Json := fun input =>
  match skipBlanks input with
  | [] => stop .endInValue []
  | b :: rest =>
    if b = ascii '[' then
      match inner with
      | none => stop .tooDeep rest
      | some item => do
        let (items, rest) ← arrayBody limit item rest
        .ok (.array items, rest)
    else if b = ascii '\x7b' then
      match inner with
      | none => stop .tooDeep rest
      | some held => do
        let (members, rest) ← objectBody limit held rest
        .ok (Json.ofMembers members, rest)
    else do
      let (value, rest) ← scalar limit b rest
      .ok (Json.ofScalar value, rest)

/-- A value in which at most `depth` brackets are open at once. -/
def value (limit : Nat) : Nat → Read Json
  | 0 => valueWith limit none
  | depth + 1 => valueWith limit (some (value limit depth))

/-- What stands where an object is wanted, after its first byte. An array is not read further. -/
def found (limit : Nat) (first : UInt8) : Read Found := fun input =>
  if first = ascii '[' then .ok (.array, first :: input)
  else do
    let (value, rest) ← scalar limit first input
    .ok (.scalar value, rest)

/-- An object whose member values are read by `held`; nothing else is accepted. -/
def objectOf {α : Type} (limit : Nat) (depth : Nat) (held : Nat → Read α) :
    Read (List (Text × α)) := fun input =>
  match skipBlanks input with
  | [] => stop .endInValue []
  | b :: rest =>
    if b = ascii '\x7b' then
      match depth with
      | 0 => stop .tooDeep rest
      | depth + 1 => objectBody limit (held depth) rest
    else do
      let (other, rest) ← found limit b rest
      stop (.notObject other) rest

/-- A whole document: one value with nothing but blanks after it. -/
def whole {α : Type} (read : Nat → Read α) (document : Bytes) : Except SyntaxError α :=
  let result : Except Fault α := do
    let (value, rest) ← read document.length document
    match skipBlanks rest with
    | [] => .ok value
    | _ :: rest => stop .trailingCharacters rest
  result.mapError (Fault.locate document)

def depthLimit : Nat := 127

def ofBytes (document : Bytes) : Except SyntaxError Json :=
  whole (fun limit => value limit depthLimit) document

end DocBrowser.Json.Reader
