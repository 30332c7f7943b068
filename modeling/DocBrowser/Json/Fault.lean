import DocBrowser.Json.Written
import DocBrowser.Text.Quoted

/-!
What can be wrong with a JSON document, and where. A reader reports how many bytes are left after
the place of a fault; line and column are found from that afterwards.
-/

namespace DocBrowser.Json

inductive Found
  | scalar (value : Scalar)
  | array

inductive Cause
  | endInValue
  | endInObject
  | endInArray
  | endInString
  | expectedValue
  | expectedWord
  | expectedColon
  | expectedObjectComma
  | expectedArrayComma
  | nameNotString
  | trailingComma
  | trailingCharacters
  | invalidNumber
  | numberOutOfRange
  | invalidEscape
  | unpairedEscape
  | loneSurrogate
  | notUtf8
  | controlCharacter
  | tooDeep
  | notObject (found : Found)

def Found.message : Found → Text
  | .scalar .null => "null"
  | .scalar (.bool b) => if b then "boolean `true`" else "boolean `false`"
  | .scalar (.number (.integer n)) => "integer `" ++ (Number.integer n).written ++ "`"
  | .scalar (.number (.float x)) => "floating point `" ++ x.written ++ "`"
  | .scalar (.string text) => "string " ++ Quoted.written text
  | .array => "sequence"

def Cause.message : Cause → Text
  | .endInValue => "EOF while parsing a value"
  | .endInObject => "EOF while parsing an object"
  | .endInArray => "EOF while parsing a list"
  | .endInString => "EOF while parsing a string"
  | .expectedValue => "expected value"
  | .expectedWord => "expected ident"
  | .expectedColon => "expected `:`"
  | .expectedObjectComma => "expected `,` or `\x7d`"
  | .expectedArrayComma => "expected `,` or `]`"
  | .nameNotString => "key must be a string"
  | .trailingComma => "trailing comma"
  | .trailingCharacters => "trailing characters"
  | .invalidNumber => "invalid number"
  | .numberOutOfRange => "number out of range"
  | .invalidEscape => "invalid escape"
  | .unpairedEscape => "unexpected end of hex escape"
  | .loneSurrogate => "lone leading surrogate in hex escape"
  | .notUtf8 => "invalid unicode code point"
  | .controlCharacter => "control character (\\u0000-\\u001F) found while parsing a string"
  | .tooDeep => "recursion limit exceeded"
  | .notObject found => "invalid type: " ++ found.message ++ ", expected a map"

/-- A fault, with the number of bytes after its place. -/
structure Fault where
  cause : Cause
  remaining : Nat

/-- A fault with its line, counted from one, and the number of bytes before it on that line. -/
structure SyntaxError where
  cause : Cause
  line : Nat
  column : Nat

def Fault.locate (document : Bytes) (fault : Fault) : SyntaxError :=
  let before := document.take (document.length - fault.remaining)
  { cause := fault.cause
    line := before.count 0x0A + 1
    column := (before.reverse.takeWhile (· != 0x0A)).length }

def SyntaxError.message (e : SyntaxError) : Text :=
  e.cause.message ++ " at line " ++ Text.ofNat e.line ++ " column " ++ Text.ofNat e.column

end DocBrowser.Json
