import DocBrowser.Gzip.Code

/-!
Expanding compressed data. It is a row of blocks, each stored as it is or coded with a fixed code or
with one of its own; a coded block holds bytes and references to earlier output. In front of the
output lies a window of zeros, so a reference that reaches before the first byte copies zeros.
-/

namespace DocBrowser.Gzip

abbrev Output := Array UInt8

/-- Least length and number of extra bits of the length symbols from 257 on. -/
def lengthSymbols : List (Nat × Nat) := [
  (3, 0), (4, 0), (5, 0), (6, 0), (7, 0), (8, 0), (9, 0), (10, 0), (11, 1), (13, 1), (15, 1),
  (17, 1), (19, 2), (23, 2), (27, 2), (31, 2), (35, 3), (43, 3), (51, 3), (59, 3), (67, 4),
  (83, 4), (99, 4), (115, 4), (131, 5), (163, 5), (195, 5), (227, 5), (258, 0)]

/-- Least distance and number of extra bits of the distance symbols. -/
def distanceSymbols : List (Nat × Nat) := [
  (1, 0), (2, 0), (3, 0), (4, 0), (5, 1), (7, 1), (9, 2), (13, 2), (17, 3), (25, 3), (33, 4),
  (49, 4), (65, 5), (97, 5), (129, 6), (193, 6), (257, 7), (385, 7), (513, 8), (769, 8), (1025, 9),
  (1537, 9), (2049, 10), (3073, 10), (4097, 11), (6145, 11), (8193, 12), (12289, 12), (16385, 13),
  (24577, 13)]

def endOfBlock : Nat := 256

/-- Repeats `length` bytes, each from `distance` bytes back. -/
def copyBack (distance : Nat) : Nat → Output → Output
  | 0, out => out
  | length + 1, out =>
    let byte := if distance ≤ out.size then (out[out.size - distance]?).getD 0 else 0
    copyBack distance length (out.push byte)

def extended (symbols : List (Nat × Nat)) (symbol : Nat) (s : Stream) :
    Except DataFault (Nat × Stream) :=
  match symbols[symbol]? with
  | none => .error .corrupt
  | some (least, width) => do
    let (extra, s) ← s.field width
    .ok (least + extra, s)

structure Codes where
  literals : Code
  distances : Code

def codedBlock (codes : Codes) : Nat → Output → Stream → Except DataFault (Output × Stream)
  | 0, _, _ => .error .truncated
  | limit + 1, out, s => do
    let (symbol, s) ← codes.literals.read s
    if symbol < endOfBlock then codedBlock codes limit (out.push (UInt8.ofNat symbol)) s
    else if symbol = endOfBlock then .ok (out, s)
    else do
      let (length, s) ← extended lengthSymbols (symbol - (endOfBlock + 1)) s
      let (symbol, s) ← codes.distances.read s
      let (distance, s) ← extended distanceSymbols symbol s
      codedBlock codes limit (copyBack distance length out) s

/-- Copies a stored block. Its length is given twice, the second time with all bits turned. -/
def storedBlock (out : Output) (s : Stream) : Except DataFault (Output × Stream) := do
  let (length, s) ← s.aligned.field 16
  let (check, s) ← s.field 16
  if length + check ≠ 0xFFFF then .error .corrupt
  else do
    let (bytes, s) ← s.takeBytes length
    .ok (out ++ bytes.toArray, s)

def fixedLengths : List Nat :=
  List.replicate 144 8 ++ List.replicate 112 9 ++ List.replicate 24 7 ++ List.replicate 8 8

def fixedCodes : Codes :=
  ⟨Code.ofLengths fixedLengths, Code.ofLengths (List.replicate 32 5)⟩

/-- The order in which the word lengths of the code for word lengths are given. -/
def lengthOrder : List Nat :=
  [16, 17, 18, 0, 8, 7, 9, 6, 10, 5, 11, 4, 12, 3, 13, 2, 14, 1, 15]

/-- `count` numbers of three bits. -/
def shortFields : Nat → Stream → Except DataFault (List Nat × Stream)
  | 0, s => .ok ([], s)
  | count + 1, s => do
    let (n, s) ← s.field 3
    let (rest, s) ← shortFields count s
    .ok (n :: rest, s)

/-- Reads word lengths until there are `wanted` of them; `done` holds them in reverse. Three symbols
stand for repetitions. -/
def wordLengths (code : Code) (wanted : Nat) :
    Nat → List Nat → Stream → Except DataFault (List Nat × Stream)
  | 0, _, _ => .error .truncated
  | limit + 1, done, s =>
    if done.length = wanted then .ok (done.reverse, s)
    else if wanted < done.length then .error .corrupt
    else do
      let (symbol, s) ← code.read s
      if symbol < 16 then wordLengths code wanted limit (symbol :: done) s
      else if symbol = 16 then
        match done with
        | [] => .error .corrupt
        | last :: _ => do
          let (extra, s) ← s.field 2
          wordLengths code wanted limit (List.replicate (3 + extra) last ++ done) s
      else if symbol = 17 then do
        let (extra, s) ← s.field 3
        wordLengths code wanted limit (List.replicate (3 + extra) 0 ++ done) s
      else do
        let (extra, s) ← s.field 7
        wordLengths code wanted limit (List.replicate (11 + extra) 0 ++ done) s

/-- Whether word lengths can be used: they are complete, or at most one symbol has a word. -/
def isUsable (lengths : List Nat) : Bool := Code.isComplete lengths || Code.isSingle lengths

/-- Reads the codes of a block that brings its own. -/
def ownCodes (s : Stream) : Except DataFault (Codes × Stream) := do
  let (literalCount, s) ← s.field 5
  let (distanceCount, s) ← s.field 5
  let (lengthCount, s) ← s.field 4
  let literalCount := literalCount + 257
  let distanceCount := distanceCount + 1
  if 286 < literalCount ∨ 30 < distanceCount then .error .corrupt
  else do
    let (given, s) ← shortFields (lengthCount + 4) s
    let pairs := lengthOrder.zip given
    let lengths := (List.range 19).map fun symbol =>
      ((pairs.find? (·.1 = symbol)).map Prod.snd).getD 0
    if ¬ Code.isComplete lengths then .error .corrupt
    else do
      let wanted := literalCount + distanceCount
      let (all, s) ← wordLengths (Code.ofLengths lengths) wanted (wanted + 1) [] s
      let literals := all.take literalCount
      let distances := all.drop literalCount
      if isUsable literals && isUsable distances then
        .ok (⟨Code.ofLengths literals, Code.ofLengths distances⟩, s)
      else .error .corrupt

def block (limit : Nat) (out : Output) (s : Stream) :
    Except DataFault (Bool × Output × Stream) := do
  let (header, s) ← s.field 3
  let final := header % 2 = 1
  let kind := header / 2
  if kind = 0 then do
    let (out, s) ← storedBlock out s
    .ok (final, out, s)
  else if kind = 1 then do
    let (out, s) ← codedBlock fixedCodes limit out s
    .ok (final, out, s)
  else if kind = 2 then do
    let (codes, s) ← ownCodes s
    let (out, s) ← codedBlock codes limit out s
    .ok (final, out, s)
  else .error .corrupt

def blocks (whole : Nat) : Nat → Output → Stream → Except DataFault (Output × Stream)
  | 0, _, _ => .error .truncated
  | limit + 1, out, s => do
    let (final, out, s) ← block whole out s
    if final then .ok (out, s) else blocks whole limit out s

/-- Expands compressed data at the front of some bytes and gives the bytes after it. Every block and
every symbol takes a bit, which bounds the rounds. -/
def inflate (bytes : Bytes) : Except DataFault (Output × Bytes) := do
  let limit := 8 * bytes.length + 1
  let (out, s) ← blocks limit limit #[] (Stream.ofBytes bytes)
  .ok (out, s.bytes)

end DocBrowser.Gzip
