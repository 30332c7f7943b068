import DocBrowser.Number.Binary64

/-!
Which decimal numbers have a nearest floating-point number: those whose magnitude is below the one
halfway between the largest floating-point number and the power of two after it. Nothing depends on
how the decimal is written.
-/

namespace DocBrowser

namespace Binary64

/-- The least magnitude that is past the largest number. -/
def tooLarge : Nat := (Nat.pow 2 54 - 1) * Nat.pow 2 970

variable {n m : Nat} {e : Int}

end Binary64

/-- Whether a decimal, with either sign, rounds to a floating-point number. -/
def Decimal.InRange (d : Decimal) : Prop :=
  d.digits * Nat.pow 10 d.exponent.toNat < Binary64.tooLarge * Nat.pow 10 (-d.exponent).toNat

instance (d : Decimal) : Decidable d.InRange :=
  inferInstanceAs (Decidable (_ < _))

namespace Binary64

end Binary64

end DocBrowser
