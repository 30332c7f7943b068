import DocBrowser.Json.Written

/-!
The pretty form of a JSON value as a list of tokens, so that a token's part in the value can be told
from its kind. The tokens' texts one after the other are the pretty form.
-/

namespace DocBrowser

namespace Json

inductive Role
  /-- The name of a member. -/
  | name
  /-- Inside the value of some member, at any depth. -/
  | held
  /-- Inside arrays only, or alone. -/
  | free
  deriving DecidableEq

inductive TokenKind
  | bracket
  | separator
  | blank
  | quote (role : Role)
  | characters (role : Role)
  | escape
  | number
  | word
  deriving DecidableEq

structure Token where
  kind : TokenKind
  text : Text
  deriving DecidableEq

namespace Token

/-- A line break and the blanks that begin the next line. -/
def newLine (indent : Nat) : List Token :=
  ⟨.blank, ['\n']⟩ :: if indent = 0 then [] else [⟨.blank, List.replicate (2 * indent) ' '⟩]

/-- Puts a character of a string in front: an escape is a token of its own, other characters join
the run that follows them. -/
def pushChar (role : Role) (c : Char) (tokens : List Token) : List Token :=
  match escape? c with
  | some text => ⟨.escape, text⟩ :: tokens
  | none =>
    match tokens with
    | ⟨.characters other, text⟩ :: rest => ⟨.characters other, c :: text⟩ :: rest
    | _ => ⟨.characters role, [c]⟩ :: tokens

/-- A string: its quotes and what is between them. -/
def ofString (role : Role) (text : Text) : List Token :=
  ⟨.quote role, ['"']⟩ :: text.foldr (pushChar role) [⟨.quote role, ['"']⟩]

/-- Groups of tokens with a comma and a new line between them. -/
def onLines (indent : Nat) : List (List Token) → List Token
  | [] => []
  | [group] => newLine indent ++ group
  | group :: rest => newLine indent ++ group ++ ⟨.separator, [',']⟩ :: onLines indent rest

end Token

mutual

/-- The pretty form of a value whose lines are indented by `indent` levels. -/
def tokens (role : Role) (indent : Nat) : Json → List Token
  | .null => [⟨.word, "null"⟩]
  | .bool b => [⟨.word, if b then "true" else "false"⟩]
  | .number n => [⟨.number, n.written⟩]
  | .string text => Token.ofString role text
  | .array [] => [⟨.bracket, ['[']⟩, ⟨.bracket, [']']⟩]
  | .array (item :: rest) =>
    ⟨.bracket, ['[']⟩ ::
      Token.onLines (indent + 1) (itemTokens role (indent + 1) (item :: rest)) ++
        Token.newLine indent ++ [⟨.bracket, [']']⟩]
  | .object [] => [⟨.bracket, ['\x7b']⟩, ⟨.bracket, ['\x7d']⟩]
  | .object (member :: rest) =>
    ⟨.bracket, ['\x7b']⟩ ::
      Token.onLines (indent + 1) (memberTokens (indent + 1) (member :: rest)) ++
        Token.newLine indent ++ [⟨.bracket, ['\x7d']⟩]

def itemTokens (role : Role) (indent : Nat) : List Json → List (List Token)
  | [] => []
  | item :: rest => tokens role indent item :: itemTokens role indent rest

def memberTokens (indent : Nat) : List (Text × Json) → List (List Token)
  | [] => []
  | (name, value) :: rest =>
    (Token.ofString .name name ++ ⟨.separator, [':']⟩ :: ⟨.blank, [' ']⟩ ::
      tokens .held indent value) :: memberTokens indent rest

end

def prettyTokens (value : Json) : List Token := value.tokens .free 0

end Json

end DocBrowser
