/-!
Finite binary floating-point numbers of 64 bits, held exactly, and their two meeting points with
decimal numbers: rounding a decimal to the nearest one, and the fewest digits that round back.
-/

namespace DocBrowser

/-- A decimal number `digits * 10 ^ exponent` without sign. -/
structure Decimal where
  digits : Nat
  exponent : Int
  deriving DecidableEq, Inhabited

/-- A finite floating-point number `± significand * 2 ^ exponent`. The significand of a number away
from zero has 53 bits; the exponent is never below -1074, where significands have fewer. -/
structure Binary64 where
  negative : Bool
  significand : Nat
  exponent : Int
  deriving DecidableEq, Inhabited

namespace Binary64

def zero (negative : Bool) : Binary64 := ⟨negative, 0, -1074⟩

/-- The whole number nearest to `numerator / denominator`; halfway it is the even one. -/
def roundHalfEven (numerator denominator : Nat) : Nat :=
  let below := numerator / denominator
  let rest := 2 * (numerator % denominator)
  if rest < denominator then below
  else if denominator < rest then below + 1
  else if below % 2 = 0 then below else below + 1

/-- The quotient of `numerator * 2 ^ -exponent` and `denominator`, as numerator and denominator. -/
def scaled (numerator denominator : Nat) (exponent : Int) : Nat × Nat :=
  if 0 ≤ exponent then (numerator, denominator * Nat.pow 2 exponent.toNat)
  else (numerator * Nat.pow 2 (-exponent).toNat, denominator)

/-- The first number of more than 53 bits, which no significand reaches. -/
def significandLimit : Nat := 0x20000000000000

/-- The least exponent at which `numerator / denominator` has at most 53 bits before the point. -/
def exponentFor (numerator denominator : Nat) : Int :=
  let guess : Int := (numerator.log2 : Int) - (denominator.log2 : Int) - 53
  let (n, d) := scaled numerator denominator guess
  max (if n / d < significandLimit then guess else guess + 1) (-1074)

/-- The number nearest to `numerator / denominator`, unless that is past the largest one. -/
def ofQuotient? (negative : Bool) (numerator denominator : Nat) : Option Binary64 :=
  if numerator = 0 then some (zero negative)
  else
    let exponent := exponentFor numerator denominator
    let (n, d) := scaled numerator denominator exponent
    let rounded := roundHalfEven n d
    let (significand, exponent) :=
      if rounded = significandLimit then (significandLimit / 2, exponent + 1)
      else (rounded, exponent)
    if 971 < exponent then none
    else if significand = 0 then some (zero negative)
    else some ⟨negative, significand, exponent⟩

def decimalLength (n : Nat) : Nat := (Nat.toDigits 10 n).length

/-- The number nearest to a decimal, unless that is past the largest one. Decimals far outside the
range are decided by their length, without building the power of ten. -/
def ofDecimal? (negative : Bool) (d : Decimal) : Option Binary64 :=
  if d.digits = 0 then some (zero negative)
  else
    let size : Int := d.exponent + decimalLength d.digits
    if 400 < size then none
    else if size < -400 then some (zero negative)
    else if 0 ≤ d.exponent then ofQuotient? negative (d.digits * Nat.pow 10 d.exponent.toNat) 1
    else ofQuotient? negative d.digits (Nat.pow 10 (-d.exponent).toNat)

/-- The magnitude as a numerator and a denominator. -/
def magnitude (x : Binary64) : Nat × Nat :=
  if 0 ≤ x.exponent then (x.significand * Nat.pow 2 x.exponent.toNat, 1)
  else (x.significand, Nat.pow 2 (-x.exponent).toNat)

/-- The two neighbours of the magnitude among the multiples of `10 ^ exponent`, the nearer first;
halfway it is the even one. -/
def neighbours (x : Binary64) (exponent : Int) : List Decimal :=
  let (n, d) := x.magnitude
  let (n, d) :=
    if 0 ≤ exponent then (n, d * Nat.pow 10 exponent.toNat)
    else (n * Nat.pow 10 (-exponent).toNat, d)
  let below := n / d
  if roundHalfEven n d = below then [⟨below, exponent⟩, ⟨below + 1, exponent⟩]
  else [⟨below + 1, exponent⟩, ⟨below, exponent⟩]

/-- The first multiple of a power of ten that reads back as `x`, trying ever finer powers. -/
def coarsest (x : Binary64) : Nat → Int → Option Decimal
  | 0, _ => none
  | steps + 1, exponent =>
    match (x.neighbours exponent).find? fun d => ofDecimal? x.negative d = some x with
    | some d => some d
    | none => coarsest x steps (exponent - 1)

def trimmed : Nat → Decimal → Decimal
  | 0, d => d
  | steps + 1, d =>
    if d.digits ≠ 0 ∧ d.digits % 10 = 0 then trimmed steps ⟨d.digits / 10, d.exponent + 1⟩ else d

/-- The fewest digits that read back as the number and, of those, the nearest to it. The first power
of ten tried is above the number; seventeen digits always suffice. -/
def shortest (x : Binary64) : Decimal :=
  let (n, d) := x.magnitude
  let top : Int := ((n.log2 : Int) - (d.log2 : Int) + 1) * 30103 / 100000 + 1
  let found := (coarsest x 24 top).getD ⟨0, 0⟩
  trimmed 20 found

end Binary64

end DocBrowser
