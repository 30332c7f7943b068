import DocBrowser.Text
import DocBrowser.Text.CaseTable

/-!
Lower-casing of whole texts. A character's lower-case form does not depend on its neighbours, except
that the capital sigma has a form of its own at the end of a word.
-/

namespace DocBrowser.LetterCase

def within (ranges : List (Nat × Nat)) (c : Char) : Bool :=
  ranges.any fun (first, last) => first ≤ c.toNat && c.toNat ≤ last

def cased (c : Char) : Bool := within casedRanges c

def ignorable (c : Char) : Bool := within ignorableRanges c

def lowerChar (c : Char) : Text :=
  if c.toNat = 0x130 then ['i', Char.ofNat 0x307]
  else
    let n := c.toNat
    match lowerRuns.find? fun run =>
        run.first ≤ n && n ≤ run.last && (n - run.first) % run.step = 0 with
    | some run => [Char.ofNat ((n : Int) + run.shift).toNat]
    | none => [c]

/-- Whether the nearest character that is not passed over has a case. -/
def meetsCased (text : Text) : Bool :=
  match text.dropWhile ignorable with
  | [] => false
  | c :: _ => cased c

/-- Capital sigma after `before` (the nearest character first) and in front of `following`. -/
def lowerSigma (before following : Text) : Char :=
  if meetsCased before && !meetsCased following then 'ς' else 'σ'

/-- Lower-cases a text that follows `before`, whose last character comes first. -/
def lowerAfter (before : Text) : Text → Text
  | [] => []
  | c :: rest =>
    if c = 'Σ' then lowerSigma before rest :: lowerAfter (c :: before) rest
    else lowerChar c ++ lowerAfter (c :: before) rest

def lower (text : Text) : Text := lowerAfter [] text

end DocBrowser.LetterCase
