import DocBrowser.Json.Token
import DocBrowser.Page.Styled

/-!
Colour themes for JSON. Every token of the pretty form gets the background of the theme and a
foreground for its kind, and one reset ends the text.
-/

namespace DocBrowser

open Json (Role TokenKind)

/-- A colour by its shares of red, green and blue. -/
abbrev Colour := Text

structure Theme where
  background : Colour
  /-- Commas, colons and blanks. -/
  plain : Colour
  bracket : Colour := plain
  quote : Role → Colour := fun _ => plain
  characters : Role → Colour
  escape : Colour
  number : Colour
  word : Colour

namespace Theme

def oceanDark : Theme where
  background := "43;48;59"
  plain := "192;197;206"
  characters _ := "163;190;140"
  escape := "150;181;180"
  number := "208;135;112"
  word := "208;135;112"

def oceanLight : Theme where
  background := "239;241;245"
  plain := "79;91;102"
  characters _ := "163;190;140"
  escape := "150;181;180"
  number := "208;135;112"
  word := "208;135;112"

def eightiesDark : Theme where
  background := "45;45;45"
  plain := "211;208;200"
  characters _ := "153;204;153"
  escape := "102;204;204"
  number := "249;145;87"
  word := "249;145;87"

def mochaDark : Theme where
  background := "59;50;40"
  plain := "208;200;198"
  characters _ := "190;181;91"
  escape := "123;189;164"
  number := "210;139;113"
  word := "210;139;113"

def solarizedDark : Theme where
  background := "0;43;54"
  plain := "131;148;150"
  bracket := "101;123;131"
  characters _ := "42;161;152"
  escape := "220;50;47"
  number := "108;113;196"
  word := "181;137;0"

def solarizedLight : Theme where
  background := "253;246;227"
  plain := "101;123;131"
  quote _ := "131;148;150"
  characters _ := "42;161;152"
  escape := "220;50;47"
  number := "108;113;196"
  word := "181;137;0"

/-- Strings outside all members and the names of members; strings held by members look like the
rest. -/
def inspiredString : Role → Colour
  | .held => "50;50;50"
  | .name | .free => "24;54;145"

def inspired : Theme where
  background := "255;255;255"
  plain := "50;50;50"
  quote := inspiredString
  characters := inspiredString
  escape := "0;134;179"
  number := "0;134;179"
  word := "0;134;179"

/-- The name of the theme that stands in for unknown ones. -/
def defaultName : Text := "base16-ocean.dark"

def all : List (Text × Theme) := [
  (defaultName, oceanDark),
  ("base16-ocean.light", oceanLight),
  ("base16-eighties.dark", eightiesDark),
  ("base16-mocha.dark", mochaDark),
  ("Solarized (dark)", solarizedDark),
  ("Solarized (light)", solarizedLight),
  ("InspiredGitHub", inspired)]

/-- The theme of a name; unknown names mean the default one. -/
def ofName (name : Text) : Theme := (all.lookup name).getD oceanDark

def foreground (theme : Theme) : TokenKind → Colour
  | .bracket => theme.bracket
  | .separator | .blank => theme.plain
  | .quote role => theme.quote role
  | .characters role => theme.characters role
  | .escape => theme.escape
  | .number => theme.number
  | .word => theme.word

def coloured (theme : Theme) (token : Json.Token) : Text :=
  controlSequence ("48;2;" ++ theme.background) ++
    controlSequence ("38;2;" ++ theme.foreground token.kind) ++ token.text

def highlight (theme : Theme) (value : Json) : Text :=
  value.prettyTokens.flatMap theme.coloured ++ resetSequence

end Theme

end DocBrowser
