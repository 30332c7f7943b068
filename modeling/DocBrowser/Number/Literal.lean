import DocBrowser.Text
import DocBrowser.Number.Binary64

/-!
How floating-point numbers are written: the fewest digits that read back, positionally and always
with a fraction while the leading digit stands for `10 ^ -5` up to `10 ^ 15`, and otherwise with an
exponent that always has a sign.
-/

namespace DocBrowser.Decimal

/-- Digits `d₁d₂…` with the decimal exponent of the first. -/
def scientific (d : Decimal) : Text × Int :=
  let digits := Nat.toDigits 10 d.digits
  (digits, d.exponent + ((digits.length : Int) - 1))

def positional (digits : Text) (exponent : Int) : Text :=
  if exponent < 0 then
    "0." ++ List.replicate ((-exponent).toNat - 1) '0' ++ digits
  else
    let whole := exponent.toNat + 1
    let fraction := digits.drop whole
    digits.take whole ++ List.replicate (whole - digits.length) '0' ++ "." ++
      (if fraction.isEmpty then ("0" : Text) else fraction)

/-- Digits with one before the point, and an exponent. -/
def exponential (digits : Text) (exponent : Int) : Text :=
  let fraction := digits.drop 1
  digits.take 1 ++ (if fraction.isEmpty then fraction else '.' :: fraction) ++
    (if exponent < 0 then ("e-" : Text) else "e+") ++ Text.ofNat exponent.natAbs

def written (d : Decimal) : Text :=
  let (digits, exponent) := d.scientific
  if -5 ≤ exponent ∧ exponent ≤ 15 then positional digits exponent
  else exponential digits exponent

end DocBrowser.Decimal

namespace DocBrowser.Binary64

def written (x : Binary64) : Text :=
  (if x.negative then ("-" : Text) else "") ++
    (if x.significand = 0 then ("0.0" : Text) else x.shortest.written)

end DocBrowser.Binary64
