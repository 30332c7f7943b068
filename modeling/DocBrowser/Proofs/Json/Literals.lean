import DocBrowser.Proofs.Json.Grammar
import DocBrowser.Proofs.Json.Results
import DocBrowser.Proofs.Json.Scalars

/-!
Numbers are read as they are written. A literal is read up to what does not continue it, if and only
if it is in range, and nothing that is no literal is read as a number.
-/

namespace DocBrowser.Json.Reader

variable {text : Text} {rest input bytes left : Bytes} {negative : Bool} {n : Number}
  {digits : Nat} {exponent : Int}

/-! Digits. -/

/-- Whether bytes do not go on with a literal that ends before them. -/
def Ends (literal : Literal) (rest : Bytes) : Prop :=
  ∀ b ∈ rest.head?, isDigit b = false ∧ (literal.exponent = none →
    isExponentMark b = false ∧ (literal.fraction = none → b ≠ ascii '.'))

variable {literal : Literal}

end DocBrowser.Json.Reader
