import DocBrowser.Text

/-!
White space in the character standard, and cutting it from the ends of a line.
-/

namespace DocBrowser.Text

/-- White space: controls that move the cursor, the space and its wider and narrower kin, and the
two separators of lines and paragraphs. -/
def isBlank (c : Char) : Bool :=
  let n := c.toNat
  (0x9 ≤ n && n ≤ 0xD) || n == 0x20 || n == 0x85 || n == 0xA0 || n == 0x1680 ||
    (0x2000 ≤ n && n ≤ 0x200A) || n == 0x2028 || n == 0x2029 || n == 0x202F || n == 0x205F ||
    n == 0x3000

def trimmed (text : Text) : Text :=
  ((text.dropWhile isBlank).reverse.dropWhile isBlank).reverse

/-- The text up to its first white space, and what follows that one character. -/
def cutAtBlank (text : Text) : Text × Option Text :=
  match text.dropWhile (!isBlank ·) with
  | [] => (text, none)
  | _ :: rest => (text.takeWhile (!isBlank ·), some rest)

end DocBrowser.Text
