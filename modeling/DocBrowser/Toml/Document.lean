import DocBrowser.Toml.Scalar

/-!
Reading a TOML document: its values, its statements and the table they build. Arrays and inline
tables nest at most as deep as a budget allows; `limit` bounds the rounds of a loop, and the length
of the document is always enough.
-/

namespace DocBrowser.Toml

def assignment (limit : Nat) (value : Read Value) : Read (Key × Value) := fun input => do
  let (key, rest) ← key limit input
  match rest with
  | '=' :: rest =>
    let (held, rest) ← value (skipSpaces rest)
    some ((key, held), rest)
  | _ => none

/-- The items of an array after those in `done`, which holds them in reverse. A comma may stand
after the last one. -/
def items (item : Read Value) (done : List Value) : Nat → Read Value
  | 0, _ => none
  | limit + 1, input => do
    match ← skipGap? false input with
    | ']' :: rest => some (.array done.reverse, rest)
    | input =>
      let (value, rest) ← item input
      match ← skipGap? false rest with
      | ',' :: rest => items item (value :: done) limit rest
      | ']' :: rest => some (.array (value :: done).reverse, rest)
      | _ => none

/-- The members of an inline table after those in `done`. A comma may stand after the last one. -/
def inlineMembers (whole : Nat) (value : Read Value) (done : Members) : Nat → Read Value
  | 0, _ => none
  | limit + 1, input => do
    match ← skipGap? false input with
    | '\x7d' :: rest => some (.table .inline done, rest)
    | input =>
      let ((key, held), rest) ← assignment whole value input
      let done ← done.assign key held .inline
      match ← skipGap? false rest with
      | ',' :: rest => inlineMembers whole value done limit rest
      | '\x7d' :: rest => some (.table .inline done, rest)
      | _ => none

/-- A value; `inner` reads the values inside an array or inline table, if they may nest any
deeper. -/
def valueWith (limit : Nat) (inner : Option (Read Value)) : Read Value := fun input =>
  match input with
  | '[' :: rest => inner.bind fun item => items item [] limit rest
  | '\x7b' :: rest => inner.bind fun held => inlineMembers limit held [] limit rest
  | '"' :: _ | '\'' :: _ => (string limit input).map fun (text, rest) => (.string text, rest)
  | _ => scalar input

/-- A value in which at most `depth` brackets are open at once. -/
def value (limit : Nat) : Nat → Read Value
  | 0 => valueWith limit none
  | depth + 1 => valueWith limit (some (value limit depth))

def depthLimit : Nat := 80

/-- A header after its opening bracket or brackets. -/
def header (limit : Nat) (closing : Text) : Read Key := fun input => do
  let (key, rest) ← key limit (skipSpaces input)
  let rest ← Text.after? closing rest
  some (key, rest)

def statement (limit : Nat) : Read Statement
  | '[' :: '[' :: rest => (header limit "]]" rest).map fun (key, rest) => (.doubleHeader key, rest)
  | '[' :: rest => (header limit "]" rest).map fun (key, rest) => (.header key, rest)
  | input =>
    (assignment limit (value limit depthLimit) input).map fun ((key, held), rest) =>
      (.assignment key held, rest)

/-- The statements of a document after those in `done`, which holds them in reverse. -/
def statements (whole : Nat) (done : List Statement) : Nat → Text → Option (List Statement)
  | 0, _ => none
  | limit + 1, input => do
    match ← skipGap? false input with
    | [] => some done.reverse
    | input =>
      let (next, rest) ← statement whole input
      statements whole (next :: done) limit (← endOfLine? rest)

/-- A mark that some editors write in front of a text. -/
def byteOrderMark : Char := Char.ofNat 0xFEFF

def skipByteOrderMark : Text → Text
  | [] => []
  | c :: rest => if c = byteOrderMark then rest else c :: rest

def ofText? (document : Text) : Option Members :=
  let input := skipByteOrderMark document
  (statements input.length [] (input.length + 1) input).bind Members.ofStatements

end DocBrowser.Toml
