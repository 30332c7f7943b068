import DocBrowser.Number.Digits
import DocBrowser.Toml.Basic

/-!
The smallest parts of a TOML document: blanks, line ends, comments, strings and keys.
-/

namespace DocBrowser.Toml

/-- A reader takes the text still to be read and gives a value with what is left of the text, unless
the text is malformed. -/
abbrev Read (α : Type) := Text → Option (α × Text)

/-- Spaces and tabs, which separate the parts of a line. -/
def isSpace (c : Char) : Bool := c == ' ' || c == '\t'

def skipSpaces (input : Text) : Text := input.dropWhile isSpace

/-- Characters that may stand in comments and strings: all but controls, among which only the tab is
allowed. -/
def isPrintable (c : Char) : Bool := c == '\t' || (0x20 ≤ c.toNat && c.toNat != 0x7F)

def lineEnd? : Text → Option Text
  | '\n' :: rest => some rest
  | '\r' :: '\n' :: rest => some rest
  | _ => none

/-- The text after the rest of a line, in which there is at most a comment. -/
def endOfLine? (input : Text) : Option Text :=
  let rest := match skipSpaces input with
    | '#' :: comment => comment.dropWhile isPrintable
    | rest => rest
  if rest.isEmpty then some [] else lineEnd? rest

/-- Skips blanks, line ends and comments, which may stand between the parts of arrays and inline
tables. -/
def skipGap? (inComment : Bool) : Text → Option Text
  | '\n' :: rest => skipGap? false rest
  | '\r' :: '\n' :: rest => skipGap? false rest
  | c :: rest =>
    if inComment then if isPrintable c then skipGap? true rest else none
    else if isSpace c then skipGap? false rest
    else if c = '#' then skipGap? true rest
    else some (c :: rest)
  | [] => some []

/-! Strings. -/

def shortEscape? : Char → Option Char
  | 'b' => some (Char.ofNat 0x08)
  | 't' => some '\t'
  | 'n' => some '\n'
  | 'f' => some (Char.ofNat 0x0C)
  | 'r' => some '\r'
  | 'e' => some (Char.ofNat 0x1B)
  | '"' => some '"'
  | '\\' => some '\\'
  | _ => none

/-- How many hexadecimal digits follow the letter of an escape that gives a character's number. -/
def escapeLength? : Char → Option Nat
  | 'x' => some 2
  | 'u' => some 4
  | 'U' => some 8
  | _ => none

/-- The character whose number is written in the next `length` digits. -/
def numberedChar (length : Nat) : Read Char := fun input => do
  let digits := input.take length
  if digits.length < length then none
  else
    let n := Digits.toNat 16 (← Digits.values? 16 digits)
    if n.isValidChar then some (Char.ofNat n, input.drop length) else none

/-- The character of an escape, after the backslash. -/
def escape : Read Char
  | [] => none
  | c :: rest =>
    match shortEscape? c, escapeLength? c with
    | some e, _ => some (e, rest)
    | none, some length => numberedChar length rest
    | none, none => none

/-- A string on one line after its opening double quote; `done` holds its characters so far in
reverse. -/
def basicString (done : Text) : Nat → Read Text
  | 0, _ => none
  | limit + 1, input =>
    match input with
    | [] => none
    | '"' :: rest => some (done.reverse, rest)
    | '\\' :: rest => do
      let (c, rest) ← escape rest
      basicString (c :: done) limit rest
    | c :: rest => if isPrintable c then basicString (c :: done) limit rest else none

/-- A string on one line after its opening single quote, in which nothing is escaped. -/
def literalString (input : Text) : Option (Text × Text) :=
  let isInside (c : Char) : Bool := c != '\'' && isPrintable c
  match input.dropWhile isInside with
  | '\'' :: rest => some (input.takeWhile isInside, rest)
  | _ => none

/-- A line end directly after the opening quotes is no part of the string. -/
def skipFirstLineEnd (input : Text) : Text := (lineEnd? input).getD input

/-- The quotes at the end of a string over several lines: how many of those that begin `input` are
still inside it, and the text after the closing three. Up to two quotes may stand before these. -/
def closingQuotes? (quote : Char) (input : Text) : Option (Nat × Text) :=
  let count := min 5 (input.takeWhile (· == quote)).length
  if count < 3 then none else some (count - 3, input.drop count)

/-- After a backslash: the text after spaces, a line end and all blanks and line ends that follow
it, if the backslash ends its line. -/
def continuation? (input : Text) : Option Text :=
  (lineEnd? (skipSpaces input)).map skipBlankLines
where
  skipBlankLines : Text → Text
    | '\n' :: rest => skipBlankLines rest
    | '\r' :: '\n' :: rest => skipBlankLines rest
    | c :: rest => if isSpace c then skipBlankLines rest else c :: rest
    | [] => []

/-- A string over several lines after its three opening quotes. Only between double quotes are there
escapes. -/
def longString (quote : Char) (done : Text) : Nat → Read Text
  | 0, _ => none
  | limit + 1, input =>
    match closingQuotes? quote input with
    | some (inside, rest) => some (done.reverse ++ List.replicate inside quote, rest)
    | none =>
      match input with
      | [] => none
      | '\n' :: rest => longString quote ('\n' :: done) limit rest
      | '\r' :: '\n' :: rest => longString quote ('\n' :: '\r' :: done) limit rest
      | c :: rest =>
        if c = '\\' ∧ quote = '"' then
          match continuation? rest with
          | some rest => longString quote done limit rest
          | none => do
            let (e, rest) ← escape rest
            longString quote (e :: done) limit rest
        else if isPrintable c then longString quote (c :: done) limit rest
        else none

def string (limit : Nat) : Read Text
  | '"' :: '"' :: '"' :: rest => longString '"' [] limit (skipFirstLineEnd rest)
  | '\'' :: '\'' :: '\'' :: rest => longString '\'' [] limit (skipFirstLineEnd rest)
  | '"' :: rest => basicString [] limit rest
  | '\'' :: rest => literalString rest
  | _ => none

/-! Keys. -/

def isBare (c : Char) : Bool := c.isAlphanum || c == '_' || c == '-'

def name (limit : Nat) : Read Text
  | '"' :: rest => basicString [] limit rest
  | '\'' :: rest => literalString rest
  | input =>
    let bare := input.takeWhile isBare
    if bare.isEmpty then none else some (bare, input.dropWhile isBare)

/-- How many names may stand before the last one of a key. -/
def pathLimit : Nat := 79

def keyAfter (whole : Nat) (path : List Text) : Nat → Read Key
  | 0, _ => none
  | limit + 1, input => do
    let (last, rest) ← name whole input
    match skipSpaces rest with
    | '.' :: more => keyAfter whole (path ++ [last]) limit (skipSpaces more)
    | rest => if pathLimit < path.length then none else some ({ path, name := last }, rest)

/-- A key: names with dots between them. The blanks after it are skipped. -/
def key (limit : Nat) : Read Key := keyAfter limit [] limit

end DocBrowser.Toml
