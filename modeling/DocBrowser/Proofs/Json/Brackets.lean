import DocBrowser.Proofs.Json.Reading
import DocBrowser.Proofs.Json.Strings

/-!
What is read between brackets is exactly what is spelled there, if that is so of the items or of the
members' values: whatever a reader gives is the meaning of a value that is spelled in front of what
it leaves, and it takes every spelling of such a value to its meaning.
-/

namespace DocBrowser.Json.Reader

variable {α : Type} {gap text written inside : Text} {rest input : Bytes} {limit depth : Nat}
  {kind : Json → Prop} {meaning : Json → α}

/-! Blanks. -/

section Items

variable {item : Read α} {items done : List α} {listed : List (Padded × Json)}

end Items

/-! Members. -/

section Members

variable {value : Read α} {members done : List (Text × α)} {listed : List (Named × Text × Json)}

variable {whole : Nat}

end Members

end DocBrowser.Json.Reader
