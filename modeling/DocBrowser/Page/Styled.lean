import DocBrowser.Text

/-!
Styled text: pieces of text, some of them with a style. With colour off only the text is left; with
colour on, every styled piece stands between the control sequence of its style and the reset
sequence, and a reset inside it is followed by the style's sequence again.
-/

namespace DocBrowser

inductive Style
  | bold
  | dimmed
  | red
  | green
  | yellow
  | blue
  | cyan
  | boldGreen
  | boldYellow
  | boldBlue
  deriving DecidableEq

def Style.codes : Style → Text
  | .bold => "1"
  | .dimmed => "2"
  | .red => "31"
  | .green => "32"
  | .yellow => "33"
  | .blue => "34"
  | .cyan => "36"
  | .boldGreen => "1;32"
  | .boldYellow => "1;33"
  | .boldBlue => "1;34"

inductive Piece
  | plain (text : Text)
  | styled (style : Style) (text : Text)
  deriving DecidableEq

abbrev Styled := List Piece

def escapeChar : Char := Char.ofNat 0x1B

/-- A control sequence that sets how the following text looks. -/
def controlSequence (codes : Text) : Text := escapeChar :: '[' :: codes ++ ['m']

def resetSequence : Text := controlSequence "0"

/-- Writes `opening` again after every reset inside a text. -/
def reopened (opening : Text) : Text → Text
  | a :: b :: c :: d :: rest =>
    if [a, b, c, d] = resetSequence then [a, b, c, d] ++ opening ++ reopened opening rest
    else a :: reopened opening (b :: c :: d :: rest)
  | rest => rest

namespace Piece

def text : Piece → Text
  | .plain text => text
  | .styled _ text => text

def coloured : Piece → Text
  | .plain text => text
  | .styled style text =>
    let opening := controlSequence style.codes
    opening ++ reopened opening text ++ resetSequence

end Piece

def Styled.paint (colour : Bool) (pieces : Styled) : Text :=
  pieces.flatMap fun piece => if colour then piece.coloured else piece.text

instance : Coe String Piece := ⟨fun text => .plain text.toList⟩

end DocBrowser
