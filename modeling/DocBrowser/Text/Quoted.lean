import DocBrowser.Number.Hexadecimal
import DocBrowser.Text.EscapedTable

/-!
A text between quotes for a message: every character that would not show is written as an escape.
-/

namespace DocBrowser.Quoted

def escaped (c : Char) : Bool :=
  escapedRanges.any fun (first, last) => first ≤ c.toNat && c.toNat ≤ last

def writtenChar (c : Char) : Text :=
  if c = '"' then "\\\""
  else if c = '\\' then "\\\\"
  else if c.toNat = 0 then "\\0"
  else if c = '\t' then "\\t"
  else if c = '\n' then "\\n"
  else if c = '\r' then "\\r"
  else if escaped c then "\\u" ++ '\x7b' :: Hexadecimal.ofNat c.toNat ++ ['\x7d']
  else [c]

def written (text : Text) : Text := '"' :: text.flatMap writtenChar ++ ['"']

end DocBrowser.Quoted
