import DisplayLayout.Keyed
import DisplayLayout.Numeric.Shortest
import DisplayLayout.Numeric.FloatReader

/-!
# Documents

The tree of a JSON document. Objects keep the order of their keys, and a number
remembers whether it was written as an integer.
-/

namespace DisplayLayout

/-- A number of a document. -/
inductive Number where
  | int (value : Int)
  | float (value : Numeric.Binary64)
deriving DecidableEq, Repr, Inhabited

/-- A document tree. -/
inductive Json where
  | null
  | bool (value : Bool)
  | number (value : Number)
  | string (value : String)
  | array (items : List Json)
  | object (entries : List (String × Json))
deriving Repr, Inhabited, BEq

namespace Number

/-- The text of a number. -/
def text : Number → String
  | int n => toString n
  | float x => Numeric.documentText x

/-- The number as a floating-point one. -/
def toBinary64 : Number → Numeric.Binary64
  | int n => Numeric.Binary64.ofInt n
  | float x => x

end Number

namespace Json

/-- An integer. -/
def int (n : Int) : Json := .number (.int n)

/-- A natural number. -/
def nat (n : Nat) : Json := .number (.int n)

/-- Whether a tree is a number. -/
def isNumber : Json → Bool
  | .number _ => true
  | _ => false

/-- Whether a tree is null. -/
def isNull : Json → Bool
  | .null => true
  | _ => false

/-- The value of a key of an object. -/
def get? (key : String) : Json → Option Json
  | .object entries => Keyed.get? entries key
  | _ => none

/-- The items of an array. -/
def items? : Json → Option (List Json)
  | .array items => some items
  | _ => none

/-- The text of a scalar other than null. -/
def scalarText? : Json → Option String
  | .string s => some s
  | .number n => some n.text
  | .bool b => some (if b then "true" else "false")
  | _ => none

/-- The integer below a floating-point number, kept within 64 bits; zero for what is not finite. -/
def floorInt64 (x : Numeric.Binary64) : Int :=
  match x.floor? with
  | some n => Numeric.clampInt64 n
  | none => 0

/-- The integer that a text stands for; a fraction is rounded down. -/
def integerOfText? (s : String) : Option Int :=
  let t := Text.trim s
  match Numeric.readInt64? t with
  | some n => some n
  | none => (Numeric.readFloat? t).map floorInt64

/-- The integer that a scalar stands for. -/
def integer? : Json → Option Int
  | .number (.int n) =>
    if Numeric.isInt64 n then some n else some (floorInt64 (Numeric.Binary64.ofInt n))
  | .number (.float x) => some (floorInt64 x)
  | .string s => integerOfText? s
  | .bool b => some (if b then 1 else 0)
  | _ => none

end Json

end DisplayLayout
