import DocBrowser.Proofs.Json.Brackets
import DocBrowser.Proofs.Json.Literals

/-!
A document is read if and only if it is the text of a value of the kind that its reader is for,
nested no deeper than the reader allows. The kinds here are any value at all and objects of a kind,
which an index is made of.
-/

namespace DocBrowser.Json.Reader

variable {α : Type} {text written : Text} {rest input : Bytes} {limit depth : Nat}
  {kind : Json → Prop} {meaning : Json → α}

/-! Scalars. -/

section Scalars

variable {x : Scalar} {b : UInt8} {negative : Bool} {n : Number}

end Scalars

/-! Values. -/

section Values

variable {inner : Option (Read Json)} {a : Json}

end Values

/-! Objects and documents. -/

end DocBrowser.Json.Reader
