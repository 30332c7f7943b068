import DocBrowser.Web.Host

/-!
Web addresses: server, path, query and fragment. An address is read leniently and written in one
way, with the path made straight and everything escaped that has to be.
-/

namespace DocBrowser.Web

structure Address where
  secure : Bool
  host : Text
  /-- The number of the service on the host, unless it is the usual one. -/
  service : Option Nat
  /-- The segments of the path, each after a slash. -/
  segments : List Text
  query : Option Text
  fragment : Option Text

/-- Whether a location is a web address; all others are paths of files. -/
def isAddress (location : Text) : Bool :=
  ("http://" : Text).isPrefixOf location || ("https://" : Text).isPrefixOf location

def escapedByte (b : UInt8) : Text := '%' :: (Hexadecimal.ofByte b).map Char.toUpper

/-- Escapes the given characters, controls, and all outside ASCII. -/
def escaped (special : Text) (text : Text) : Text :=
  text.flatMap fun c =>
    if c.toNat < 0x20 ∨ 0x7F ≤ c.toNat ∨ special.contains c then
      (Utf8.encodeChar c).flatMap escapedByte
    else [c]

def pathSpecial : Text := " \"#<>?\x60\x7b\x7d"

def querySpecial : Text := " \"#<>'"

def fragmentSpecial : Text := " \"<>\x60"

/-- A text up to the first character of some kind, and the text from there on. -/
def cutAt (stops : Char → Bool) (text : Text) : Text × Text :=
  (text.takeWhile (!stops ·), text.dropWhile (!stops ·))

def isSlash (c : Char) : Bool := c == '/' || c == '\\'

def endsServer (c : Char) : Bool := isSlash c || c == '?' || c == '#'

/-- The text after the last at sign; what stands before it names a user. -/
def withoutUser (server : Text) : Text := (server.reverse.takeWhile (· != '@')).reverse

/-- The host, up to the first colon outside of brackets, and the number of the service after it. -/
def hostAndService (inBrackets : Bool) : Text → Text × Option Text
  | [] => ([], none)
  | c :: rest =>
    if c = ':' ∧ ¬ inBrackets then ([], some rest)
    else
      let inBrackets := if c = '[' then true else if c = ']' then false else inBrackets
      let (host, service) := hostAndService inBrackets rest
      (c :: host, service)

/-- The number of a service. The usual one is as good as none. -/
def service? (secure : Bool) : Option Text → Option (Option Nat)
  | none => some none
  | some text => do
    let digits ← Digits.values? 10 text
    let n := Digits.toNat 10 digits
    if 65535 < n then none
    else if digits.isEmpty ∨ n = (if secure then 443 else 80) then some none
    else some (some n)

def withPoints : Text → Text
  | '%' :: '2' :: 'e' :: rest => '.' :: withPoints rest
  | '%' :: '2' :: 'E' :: rest => '.' :: withPoints rest
  | c :: rest => c :: withPoints rest
  | [] => []

/-- The segments of a straight path, given those before in reverse. A single point stays where it is
and two points go back; at the end of a path both leave a slash. -/
def straight (done : List Text) : List Text → List Text
  | [] => done.reverse
  | segment :: rest =>
    let isLast := rest.isEmpty
    if withPoints segment = ['.', '.'] then
      straight (if isLast then [] :: done.tail else done.tail) rest
    else if withPoints segment = ['.'] then straight (if isLast then [] :: done else done) rest
    else straight (segment :: done) rest

def pathSegments (path : Text) : List Text :=
  let path := match path with
    | c :: rest => if isSlash c then rest else path
    | [] => []
  straight [] ((path.splitOnP isSlash).map (escaped pathSpecial))

def afterMark (text : Text) : Option Text :=
  match text with
  | [] => none
  | _ :: rest => some rest

/-- Line ends and tabs count for nothing in an address, nor do blanks at its end. -/
def cleaned (text : Text) : Text :=
  ((text.reverse.dropWhile (·.toNat ≤ 0x20)).reverse).filter fun c =>
    c != '\t' && c != '\n' && c != '\r'

namespace Address

def ofRest? (secure : Bool) (rest : Text) : Option Address := do
  let (server, rest) := cutAt endsServer (rest.dropWhile isSlash)
  let (host, service) := hostAndService false (withoutUser server)
  let (path, rest) := cutAt (fun c => c == '?' || c == '#') rest
  let (query, fragment) := cutAt (· == '#') rest
  some {
    secure
    host := ← host? host
    service := ← service? secure service
    segments := pathSegments path
    query := (afterMark query).map (escaped querySpecial)
    fragment := (afterMark fragment).map (escaped fragmentSpecial) }

def parse? (text : Text) : Option Address :=
  match Text.after? "http:" text, Text.after? "https:" text with
  | some rest, _ => ofRest? false (cleaned rest)
  | none, some rest => ofRest? true (cleaned rest)
  | none, none => none

def written (address : Address) : Text :=
  (if address.secure then ("https://" : Text) else "http://") ++ address.host ++
    (match address.service with
      | some number => ':' :: Text.ofNat number
      | none => []) ++
    address.segments.flatMap ('/' :: ·) ++
    (match address.query with
      | some query => '?' :: query
      | none => []) ++
    (match address.fragment with
      | some fragment => '#' :: fragment
      | none => [])

end Address

/-- Why a request to an address fails. No server is ever reached, so it only matters whether there
is an address to ask. -/
def failure (location : Text) : Text :=
  match Address.parse? location with
  | none => "builder error"
  | some address => "error sending request for url (" ++ address.written ++ ")"

end DocBrowser.Web
