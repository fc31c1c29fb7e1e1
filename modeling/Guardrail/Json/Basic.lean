import Guardrail.Decimal.Notation
import Guardrail.Text.Case

/-!
# JSON values

The records that policies are evaluated on. A number keeps whether it was written as an integer
or as a fraction. An object lists its members by ascending name, each name once: `ofMembers`
builds such a list and `member?` looks a name up.
-/

namespace Guardrail

/-- A number: an integer between `-2 ^ 63` and `2 ^ 64 - 1`, or a binary fraction. -/
inductive Number where
  | int (n : Int)
  | fraction (x : Float)
  deriving DecidableEq, Repr

namespace Number

/-- The number as a binary fraction, rounded to the nearest one. -/
def toFloat : Number → Float
  | .int n => Float.ofInt n
  | .fraction x => x

/-- Equality of numbers of one kind; an integer never equals a fraction. -/
def same : Number → Number → Bool
  | .int m, .int n => m == n
  | .fraction x, .fraction y => x == y
  | _, _ => false

/-- The text of a number. -/
def toText : Number → String
  | .int n => Decimal.intText n
  | .fraction x => (Decimal.plain.render? x).getD "null"

end Number

/-- A JSON value. -/
inductive Json where
  | null
  | bool (b : Bool)
  | number (n : Number)
  | text (s : String)
  | array (items : List Json)
  | object (members : List (String × Json))
  deriving Repr, Inhabited

namespace Json

/-- A whole number as a value. -/
def ofInt (n : Int) : Json := .number (.int n)

/-- A natural number as a value. -/
def ofNat (n : Nat) : Json := .number (.int n)

/-- A `Float` as a value; an infinity or a non-number is `null`. -/
def ofFloat (x : Float) : Json :=
  if x.isFinite then .number (.fraction x) else .null

/-- The members with `name` given a value, which replaces an earlier one. -/
def putMember (name : String) (value : Json) : List (String × Json) → List (String × Json)
  | [] => [(name, value)]
  | (k, v) :: rest =>
    if name < k then (name, value) :: (k, v) :: rest
    else if name = k then (name, value) :: rest
    else (k, v) :: putMember name value rest

/-- The object with the given members; of two with one name the later one counts. -/
def ofMembers (members : List (String × Json)) : Json :=
  .object (members.foldl (fun ms (k, v) => putMember k v ms) [])

/-- The member of an object with a given name. -/
def member? : Json → String → Option Json
  | .object ms, name => ms.lookup name
  | _, _ => none

/-- The text that a value is. -/
def text? : Json → Option String
  | .text s => some s
  | _ => none

/-- The list that a value is. -/
def array? : Json → Option (List Json)
  | .array xs => some xs
  | _ => none

/-- The members of a value that is an object. -/
def members? : Json → Option (List (String × Json))
  | .object ms => some ms
  | _ => none

/-- Whether a value is `null`. -/
def isNull : Json → Bool
  | .null => true
  | _ => false

/-- The text form of a text, number or truth value; other values have none. -/
def scalarText? : Json → Option String
  | .text s => some s
  | .number n => some n.toText
  | .bool b => some (if b then "true" else "false")
  | _ => none

mutual

/-- Structural equality; numbers of different kinds differ. -/
def same : Json → Json → Bool
  | .null, .null => true
  | .bool a, .bool b => a == b
  | .number a, .number b => a.same b
  | .text a, .text b => a == b
  | .array xs, .array ys => sameItems xs ys
  | .object ms, .object ns => sameMembers ms ns
  | _, _ => false

/-- Structural equality of lists of values. -/
def sameItems : List Json → List Json → Bool
  | [], [] => true
  | x :: xs, y :: ys => same x y && sameItems xs ys
  | _, _ => false

/-- Structural equality of lists of members. -/
def sameMembers : List (String × Json) → List (String × Json) → Bool
  | [], [] => true
  | (k, x) :: ms, (l, y) :: ns => k == l && same x y && sameMembers ms ns
  | _, _ => false

end

/-- Equality of values in which two numbers are equal if their binary fractions are. -/
def agrees : Json → Json → Bool
  | .number a, .number b => a.toFloat == b.toFloat
  | x, y => same x y

end Json

end Guardrail
