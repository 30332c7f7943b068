import DocBrowser.Text

/-!
Labels of host names in ASCII. The characters outside ASCII are taken out of the label and follow it
as numbers: how many steps a decoder has to count, over characters and places, to the next one. The
numbers are written in digits whose weights adapt to the size of the numbers before.
-/

namespace DocBrowser.Punycode

/-- A digit of base 36: letters, then decimal digits. -/
def digit (n : Nat) : Char := Char.ofNat (if n < 26 then 0x61 + n else 0x30 + (n - 26))

/-- The least value of a digit that is not the last one of its number. -/
def threshold (bias position : Nat) : Nat := min 26 (max 1 (position - bias))

/-- A number in digits of adapted weights. Its size bounds the digits. -/
def number (bias position : Nat) : Nat → Nat → Text
  | 0, _ => []
  | limit + 1, n =>
    let least := threshold bias position
    if n < least then [digit n]
    else
      digit (least + (n - least) % (36 - least)) ::
        number bias (position + 36) limit ((n - least) / (36 - least))

/-- How often 35 goes into a number before 455 is left, and what is left then. -/
def shrunk (rounds : Nat) : Nat → Nat → Nat × Nat
  | 0, n => (rounds, n)
  | limit + 1, n => if 455 < n then shrunk (rounds + 1) limit (n / 35) else (rounds, n)

/-- The bias for the numbers after `n`, which was the `written`-th. -/
def adapted (n written : Nat) (first : Bool) : Nat :=
  let n := if first then n / 700 else n / 2
  let (rounds, rest) := shrunk 0 n (n + n / written)
  36 * rounds + 36 * rest / (rest + 38)

structure State where
  /-- The characters below this number are written. -/
  next : Nat := 0x80
  /-- Steps counted since the last number. -/
  steps : Nat := 0
  bias : Nat := 72
  written : Nat
  numbers : Text := []

/-- Passes over one character of a label while those of number `n` are written. -/
def pass (plain n : Nat) (state : State) (c : Char) : State :=
  if c.toNat < n then { state with steps := state.steps + 1 }
  else if c.toNat = n then
    { state with
      numbers := state.numbers ++ number state.bias 36 (state.steps + 1) state.steps
      bias := adapted state.steps (state.written + 1) (state.written = plain)
      steps := 0
      written := state.written + 1 }
  else state

/-- Writes the least character of a label that is not written yet, wherever it stands. -/
def writeNext (plain : Nat) (label : Text) (state : State) : State :=
  match ((label.map Char.toNat).filter (state.next ≤ ·)).min? with
  | none => state
  | some n =>
    let state := { state with steps := state.steps + (n - state.next) * (state.written + 1) }
    let state := label.foldl (pass plain n) state
    { state with next := n + 1, steps := state.steps + 1 }

def writeAll (plain : Nat) (label : Text) : Nat → State → State
  | 0, state => state
  | rounds + 1, state => writeAll plain label rounds (writeNext plain label state)

/-- A label in ASCII. One that is in ASCII stays as it is. -/
def label (text : Text) : Text :=
  let plain := text.filter (·.toNat < 0x80)
  if plain.length = text.length then text
  else
    let state := writeAll plain.length text text.length { written := plain.length }
    "xn--" ++ plain ++ (if plain.isEmpty then [] else ['-']) ++ state.numbers

end DocBrowser.Punycode
