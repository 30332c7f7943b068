import DocBrowser.Dictionary
import DocBrowser.Number.Binary64

/-!
JSON values. Integers that fit 64 bits stay integers, all other numbers are floating-point. The
members of an object are sorted by name, so that equal objects are equal lists.
-/

namespace DocBrowser

inductive Number
  | integer (n : Int)
  | float (x : Binary64)
  deriving DecidableEq, Inhabited

inductive Scalar
  | null
  | bool (b : Bool)
  | number (n : Number)
  | string (text : Text)
  deriving DecidableEq, Inhabited

inductive Json
  | null
  | bool (b : Bool)
  | number (n : Number)
  | string (text : Text)
  | array (items : List Json)
  | object (members : List (Text × Json))
  deriving Inhabited

namespace Json

def ofScalar : Scalar → Json
  | .null => .null
  | .bool b => .bool b
  | .number n => .number n
  | .string text => .string text

/-- An object of the given members; of several of one name the last counts. -/
def ofMembers (members : List (Text × Json)) : Json := .object (Sorted.collect members)

def member? (name : Text) : Json → Option Json
  | .object members => Sorted.find? name members
  | _ => none

end Json

end DocBrowser
