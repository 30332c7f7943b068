import DocBrowser.Number.Binary64
import DocBrowser.Toml.Lexeme

/-!
Values that are written in one word without quotes: truth values, numbers and moments in time.
-/

namespace DocBrowser.Toml

def digits? (base : Nat) (word : Text) : Option (List Nat) :=
  let groups := word.splitOn '_'
  if groups.any List.isEmpty then none else Digits.values? base groups.flatten

/-- A word without its sign, and whether that is a minus. -/
def signed : Text → Bool × Text
  | '-' :: rest => (true, rest)
  | '+' :: rest => (false, rest)
  | word => (false, word)

/-- Decimal digits that do not begin with a superfluous zero. -/
def wholeDigits? (word : Text) : Option (List Nat) := do
  let digits ← digits? 10 word
  if digits.length = 1 ∨ digits.head? ≠ some 0 then some digits else none

/-- An integer that fits 128 bits, with or without sign. -/
def integer? (negative : Bool) (n : Nat) : Option Value :=
  if negative then if n ≤ 0x80000000000000000000000000000000 then some (.integer (-n)) else none
  else if n < 0x100000000000000000000000000000000 then some (.integer n)
  else none

def exponent? (word : Text) : Option Int := do
  let (negative, rest) := signed word
  let n := Digits.toNat 10 (← digits? 10 rest)
  some (if negative then -(n : Int) else n)

/-- The number `± digits * 10 ^ exponent`, unless that is out of range. -/
def float? (negative : Bool) (digits : List Nat) (exponent : Int) : Option Value :=
  (Binary64.ofDecimal? negative ⟨Digits.toNat 10 digits, exponent⟩).map fun _ => .float

def decimal? (negative : Bool) (word : Text) : Option Value := do
  let isMark (c : Char) : Bool := c == 'e' || c == 'E'
  let mantissa := word.takeWhile (!isMark ·)
  let power := word.dropWhile (!isMark ·)
  let whole ← wholeDigits? (mantissa.takeWhile (· != '.'))
  let point := mantissa.dropWhile (· != '.')
  if power.isEmpty ∧ point.isEmpty then integer? negative (Digits.toNat 10 whole)
  else
    let fraction ← if point.isEmpty then some [] else digits? 10 (point.drop 1)
    let exponent ← if power.isEmpty then some 0 else exponent? (power.drop 1)
    float? negative (whole ++ fraction) (exponent - fraction.length)

def based? (base : Nat) (word : Text) : Option Value :=
  (digits? base word).bind fun digits => integer? false (Digits.toNat base digits)

/-- A number. Those in other bases than ten have no sign. -/
def number? (word : Text) : Option Value :=
  match word with
  | '0' :: 'x' :: rest => based? 16 rest
  | '0' :: 'o' :: rest => based? 8 rest
  | '0' :: 'b' :: rest => based? 2 rest
  | _ =>
    let (negative, rest) := signed word
    if rest = ("inf" : Text) ∨ rest = ("nan" : Text) then some .float else decimal? negative rest

/-! Moments in time. -/

/-- The number written in the next `length` digits. -/
def fixedDigits (length : Nat) : Read Nat := fun input => do
  let word := input.take length
  if word.length < length then none
  else some (Digits.toNat 10 (← Digits.values? 10 word), input.drop length)

def mark (c : Char) : Text → Option Text
  | [] => none
  | d :: rest => if d = c then some rest else none

def isLeapYear (year : Nat) : Bool := year % 4 == 0 && (year % 100 != 0 || year % 400 == 0)

def daysInMonth (year month : Nat) : Nat :=
  if month = 2 then if isLeapYear year then 29 else 28
  else if month = 4 ∨ month = 6 ∨ month = 9 ∨ month = 11 then 30
  else 31

def afterDate? (input : Text) : Option Text := do
  let (year, rest) ← fixedDigits 4 input
  let (month, rest) ← fixedDigits 2 (← mark '-' rest)
  let (day, rest) ← fixedDigits 2 (← mark '-' rest)
  if 1 ≤ month ∧ month ≤ 12 ∧ 1 ≤ day ∧ day ≤ daysInMonth year month then some rest else none

def afterMinute? (input : Text) : Option Text := do
  let (hour, rest) ← fixedDigits 2 input
  let (minute, rest) ← fixedDigits 2 (← mark ':' rest)
  if hour ≤ 23 ∧ minute ≤ 59 then some rest else none

def afterFraction? : Text → Option Text
  | '.' :: rest =>
    if (rest.takeWhile Char.isDigit).isEmpty then none else some (rest.dropWhile Char.isDigit)
  | rest => some rest

/-- The text after the time of a day, in which the seconds may be left out. A minute may end with a
leap second. -/
def afterTime? (input : Text) : Option Text := do
  match ← afterMinute? input with
  | ':' :: rest =>
    let (second, rest) ← fixedDigits 2 rest
    if second ≤ 60 then afterFraction? rest else none
  | rest => some rest

/-- The text after the distance of a local time from world time, if it is given. -/
def afterOffset? : Text → Option Text
  | [] => some []
  | c :: rest =>
    if c = 'Z' ∨ c = 'z' then some rest
    else if c = '+' ∨ c = '-' then afterMinute? rest
    else some (c :: rest)

def atEnd (rest : Option Text) : Bool := rest == some []

def isDate (word : Text) : Bool := atEnd (afterDate? word)

/-- Whether a word is the time of a day with or without an offset. -/
def isTimeOfDate (word : Text) : Bool := atEnd ((afterTime? word).bind afterOffset?)

/-- Whether a word is a moment in time: a date, a time, or both with a letter between them. -/
def isMoment (word : Text) : Bool :=
  atEnd (afterTime? word) ||
    match afterDate? word with
    | some [] => true
    | some (c :: time) => (c == 'T' || c == 't') && isTimeOfDate time
    | none => false

def endsWord (c : Char) : Bool :=
  isSpace c || c == '\r' || c == '\n' || c == '#' || c == ',' || c == '=' || c == '[' || c == ']' ||
    c == '\x7b' || c == '\x7d'

def ofWord? (word : Text) : Option Value :=
  if word = ("true" : Text) then some (.boolean true)
  else if word = ("false" : Text) then some (.boolean false)
  else if isMoment word then some .moment
  else number? word

/-- A value without quotes or brackets. One space may stand between a date and a time. -/
def scalar : Read Value := fun input => do
  let word := input.takeWhile (!endsWord ·)
  let rest := input.dropWhile (!endsWord ·)
  let value ← ofWord? word
  match rest with
  | ' ' :: more =>
    if isDate word ∧ isTimeOfDate (more.takeWhile (!endsWord ·)) then
      some (value, more.dropWhile (!endsWord ·))
    else some (value, rest)
  | _ => some (value, rest)

end DocBrowser.Toml
