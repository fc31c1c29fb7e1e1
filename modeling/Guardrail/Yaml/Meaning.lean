import Guardrail.Decimal.Binary
import Guardrail.Decimal.Reading
import Guardrail.Document.Basic
import Guardrail.Text.Hexadecimal
import Guardrail.Yaml.Token

/-!
# What words mean in YAML

A word without quotes may mean nothing, a truth value or a number; any other is a text. A number
with a zero in front of other digits is a text too.
-/

namespace Guardrail.Yaml

/-- Whether a word means nothing. -/
def isNullWord (word : String) : Bool :=
  word ∈ ["null", "Null", "NULL", "~"]

/-- The truth value that a word means. -/
def truth? (word : String) : Option Bool :=
  if word ∈ ["true", "True", "TRUE"] then some true
  else if word ∈ ["false", "False", "FALSE"] then some false
  else none

/-- Whether a text is a zero and further digits, with or without a sign. -/
def hasLeadingZero (cs : List Char) : Bool :=
  let body :=
    match cs with
    | '+' :: rest => rest
    | '-' :: rest => rest
    | rest => rest
  body.length ≠ 1 && body.head? = some '0' && body.all Char.isDigit

/-- The number that digits of a base write. -/
def digits? (base : Nat) (cs : List Char) : Option Nat := do
  let ds ← cs.mapM Text.hexDigit?
  if ds.isEmpty || ds.any (base ≤ ·) then none else some (ds.foldl (fun n d => base * n + d) 0)

/-- The number that a text without a sign writes: in decimal, or in the base that its first two
characters name. -/
def natural? : List Char → Option Nat
  | '0' :: 'x' :: cs => digits? 16 cs
  | '0' :: 'o' :: cs => digits? 8 cs
  | '0' :: 'b' :: cs => digits? 2 cs
  | cs => if hasLeadingZero cs then none else digits? 10 cs

/-- The integer that a text writes. -/
def integer? : List Char → Option Int
  | '-' :: cs => (natural? cs).map fun n => -(n : Int)
  | '+' :: cs => (natural? cs).map Int.ofNat
  | cs => (natural? cs).map Int.ofNat

/-- The binary fraction that a text writes. Infinities and the non-number have names of their
own. -/
def fraction? (cs : List Char) : Option Float :=
  let (signed, body) :=
    match cs with
    | '+' :: rest => (true, rest)
    | rest => (false, rest)
  let infinity := Float.ofScientific 1 false 400
  let word := String.ofList cs
  if String.ofList body ∈ [".inf", ".Inf", ".INF"] then some infinity
  else if word ∈ ["-.inf", "-.Inf", "-.INF"] then some (-infinity)
  else if word ∈ [".nan", ".NaN", ".NAN"] then some (0 / 0)
  else if signed && body.head?.any (fun c => c = '+' || c = '-') then none
  else (Decimal.float? body).filter Float.isFinite

/-- Whether so many bits hold an integer; one of them is the sign if it is negative. -/
def fits (bits : Nat) (n : Int) : Bool :=
  -(Decimal.twoTo (bits - 1) : Int) ≤ n && n < Decimal.twoTo bits

/-- The meaning of a word that is no integer. -/
def otherMeaning (word : String) : Scalar :=
  if hasLeadingZero word.toList then .text word
  else
    match fraction? word.toList with
    | some x => .number (.fraction x)
    | none => .text word

/-- The meaning of a word without quotes. An integer of more than 64 bits has none, unless it takes
more than 128, when it is read as a fraction. -/
def meaning? (word : String) : Option Scalar :=
  if word = "" ∨ isNullWord word then some .null
  else
    match truth? word, integer? word.toList with
    | some b, _ => some (.bool b)
    | none, none => some (otherMeaning word)
    | none, some n =>
      if fits 64 n then some (.number (.int n))
      else if fits 128 n then none
      else some (otherMeaning word)

namespace TagName

/-- The name of truth values. -/
def bool : TagName := ofString "tag:yaml.org,2002:bool"

/-- The name of integers. -/
def int : TagName := ofString "tag:yaml.org,2002:int"

/-- The name of fractions. -/
def float : TagName := ofString "tag:yaml.org,2002:float"

/-- The name of nothing. -/
def null : TagName := ofString "tag:yaml.org,2002:null"

end TagName

/-- The meaning of a word under the name of a kind of value; other names make it a text. -/
def meaningAs? (name : TagName) (word : String) : Option Scalar :=
  if name = .bool then (truth? word).map .bool
  else if name = .int then
    ((integer? word.toList).filter (fits 64)).map fun n => .number (.int n)
  else if name = .float then (fraction? word.toList).map fun x => .number (.fraction x)
  else if name = .null then if isNullWord word then some .null else none
  else some (.text word)

end Guardrail.Yaml
