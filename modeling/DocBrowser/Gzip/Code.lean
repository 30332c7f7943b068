import DocBrowser.Gzip.Stream

/-!
Prefix codes, given by the length of each symbol's code word. Words of one length are consecutive
numbers in the order of their symbols, and shorter words come before longer ones.
-/

namespace DocBrowser.Gzip

/-- A code as the tree in which its words are looked up bit by bit. -/
inductive Code
  | unused
  | leaf (symbol : Nat)
  | branch (zero one : Code)

namespace Code

/-- The `width` lowest bits of a number, the most significant first. -/
def wordBits (width n : Nat) : List Bool := ((List.range width).map n.testBit).reverse

def symbolsOfLength (lengths : List Nat) (width : Nat) : List Nat :=
  lengths.zipIdx.filterMap fun (length, symbol) => if length = width then some symbol else none

/-- The words of lengths from `width` on, the first of which is numbered twice `next`. -/
def wordsFrom (lengths : List Nat) : Nat → Nat → Nat → List (List Bool × Nat)
  | 0, _, _ => []
  | count + 1, width, next =>
    let symbols := symbolsOfLength lengths width
    let words := symbols.zipIdx.map fun (symbol, k) => (wordBits width (2 * next + k), symbol)
    words ++ wordsFrom lengths count (width + 1) (2 * next + symbols.length)

def maxLength : Nat := 15

def words (lengths : List Nat) : List (List Bool × Nat) := wordsFrom lengths maxLength 1 0

def insert (symbol : Nat) : List Bool → Code → Code
  | [], _ => .leaf symbol
  | bit :: rest, code =>
    let (zero, one) := match code with
      | .branch zero one => (zero, one)
      | _ => (.unused, .unused)
    if bit then .branch zero (insert symbol rest one) else .branch (insert symbol rest zero) one

def ofLengths (lengths : List Nat) : Code :=
  (words lengths).foldl (fun code (word, symbol) => insert symbol word code)
    (.branch .unused .unused)

/-- The share of all words of the greatest length that begin with a word of the code. -/
def weight (lengths : List Nat) : Nat :=
  lengths.foldr
    (fun length sum => (if length = 0 then 0 else Nat.pow 2 (maxLength - length)) + sum) 0

/-- Whether every long enough run of bits begins with exactly one word. -/
def isComplete (lengths : List Nat) : Bool := weight lengths == Nat.pow 2 maxLength

def isSingle (lengths : List Nat) : Bool := (lengths.filter (· != 0)).length ≤ 1

def read : Code → Stream → Except DataFault (Nat × Stream)
  | .unused, _ => .error .corrupt
  | .leaf symbol, s => .ok (symbol, s)
  | .branch zero one, s => do
    let (bit, s) ← s.next
    if bit then one.read s else zero.read s

end Code

end DocBrowser.Gzip
