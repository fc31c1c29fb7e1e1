import Guardrail.Text.Hexadecimal
import Guardrail.Yaml.Character
import Guardrail.Yaml.Token

/-!
# Names in YAML texts

Names of anchors, tags and directives. In tags a character may be written as a percent sign with
two hexadecimal digits for each of its bytes. The first byte says how many there are; beyond that
the bytes are taken as they come.
-/

namespace Guardrail.Yaml

/-- Whether a character may end the name of an anchor. -/
def endsAnchor (c : Char) : Bool :=
  isGap c || c ∈ ['?', ':', ',', ']', '}', '%', '@', '\x60']

/-- The name of an anchor, and the rest. -/
def anchorName? (cs : List Char) : Option (String × List Char) :=
  let name := cs.takeWhile isNameChar
  let rest := cs.dropWhile isNameChar
  if !name.isEmpty && rest.head?.all endsAnchor then some (String.ofList name, rest) else none

namespace Tag

/-- The characters of names of tags; some more stand in names that are written in full. -/
def isTagChar (full : Bool) (c : Char) : Bool :=
  isNameChar c || c ∈ ";/?:@&=+$.%!~*'()".toList || (full && (c = ',' || c = '[' || c = ']'))

/-- How many bytes follow the first one of a character. -/
def following? (byte : Nat) : Option Nat :=
  if byte < 0x80 then some 0
  else if byte < 0xc0 then none
  else if byte < 0xe0 then some 1
  else if byte < 0xf0 then some 2
  else if byte < 0xf8 then some 3
  else none

/-- The bytes of a name, its escapes resolved, where so many bytes of a character are missing. -/
def bytes? : Nat → List Char → Option TagName
  | 0, [] => some []
  | missing, '%' :: a :: b :: cs => do
    let byte := 16 * (← Text.hexDigit? a) + (← Text.hexDigit? b)
    let missing ←
      if missing = 0 then following? byte
      else if 0x80 ≤ byte ∧ byte < 0xc0 then some (missing - 1)
      else none
    return UInt8.ofNat byte :: (← bytes? missing cs)
  | 0, c :: cs => if c = '%' then none else (bytes? 0 cs).map (UInt8.ofNat c.toNat :: ·)
  | _ + 1, _ => none

/-- The name at the start of a text and the rest. A name ends at a zero byte. -/
def spanName? (full : Bool) (cs : List Char) : Option (TagName × List Char) := do
  let name ← bytes? 0 (cs.takeWhile (isTagChar full))
  return (name.takeWhile (· ≠ 0), cs.dropWhile (isTagChar full))

/-- The name at the start of a text, which has to be written, and the rest. -/
def takeName? (full : Bool) (cs : List Char) : Option (TagName × List Char) :=
  if cs.head?.any (isTagChar full) then spanName? full cs else none

/-- A tag whose exclamation mark has been read, and the rest. -/
def readAny? (cs : List Char) : Option (Tag × List Char) := do
  let word := cs.takeWhile isNameChar
  match cs, cs.dropWhile isNameChar with
  | '<' :: cs, _ =>
    let (name, rest) ← takeName? true cs
    if rest.head? = some '>' then some (⟨"", name⟩, rest.tail) else none
  | _, '!' :: cs =>
    let (name, rest) ← takeName? false cs
    some (⟨"!" ++ String.ofList word ++ "!", name⟩, rest)
  | cs, _ =>
    let (name, rest) ← spanName? false cs
    some (if name.isEmpty then ⟨"", .ofString "!"⟩ else ⟨"!", name⟩, rest)

/-- A tag that ends behind its name; within brackets a comma may follow it. -/
def read? (flow : Bool) (cs : List Char) : Option (Tag × List Char) := do
  let (tag, rest) ← readAny? cs
  if endsWord rest || (flow && rest.head? = some ',') then some (tag, rest) else none

end Tag

namespace Token

/-- A number of at most nine digits, and the rest. -/
def shortNumber? (cs : List Char) : Option (List Char × List Char) :=
  let digits := cs.takeWhile Char.isDigit
  if 1 ≤ digits.length ∧ digits.length ≤ 9 then some (digits, cs.dropWhile Char.isDigit) else none

/-- The version that a text is written in, which is the first or second minor one of the first. -/
def version? (cs : List Char) : Option (Token × List Char) := do
  let (major, rest) ← shortNumber? cs
  if rest.head? ≠ some '.' then none
  else
    let (minor, rest) ← shortNumber? rest.tail
    let value (digits : List Char) := digits.dropWhile (· = '0')
    if value major = ['1'] ∧ (value minor = ['1'] ∨ value minor = ['2']) then some (.version, rest)
    else none

/-- A handle and what it stands for. -/
def handle? (cs : List Char) : Option (Token × List Char) := do
  if cs.head? ≠ some '!' then none
  else
    let word := cs.tail.takeWhile isNameChar
    let rest := cs.tail.dropWhile isNameChar
    let (name, rest) ←
      if rest.head? = some '!' then some ('!' :: word ++ ['!'], rest.tail)
      else if word.isEmpty then some (['!'], rest)
      else none
    let (start, after) ← Tag.takeName? true (rest.dropWhile isSpace)
    if rest.head?.any isSpace then some (.handle (String.ofList name) start, after) else none

/-- The directive whose percent sign has been read, and the text behind its line. -/
def directive? (cs : List Char) : Option (Token × List Char) := do
  let name := cs.takeWhile isNameChar
  let rest := cs.dropWhile isNameChar
  if !endsWord rest then none
  else
    let (token, rest) ←
      if name = ['Y', 'A', 'M', 'L'] then version? (rest.dropWhile isSpace)
      else if name = ['T', 'A', 'G'] then handle? (rest.dropWhile isSpace)
      else none
    if token ≠ .version ∧ !endsWord rest then none
    else (lineEnd? rest).map (token, ·)

end Token

end Guardrail.Yaml
