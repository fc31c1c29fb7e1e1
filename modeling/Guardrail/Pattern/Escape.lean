import Guardrail.Pattern.Regex
import Guardrail.Text.Hexadecimal

/-!
# Escapes in patterns

What a backslash and the characters behind it stand for. In the extended notation blanks and
comments may stand between the characters of an escape.
-/

namespace Guardrail.Pattern

/-- The switches that a pattern can set for the rest of a group. -/
structure Flags where
  insensitive : Bool
  multiline : Bool
  dotAll : Bool
  unicode : Bool
  returns : Bool
  extended : Bool
  /-- Whether eager and reluctant repetition are exchanged. -/
  exchanged : Bool
  deriving DecidableEq, Repr

/-- The switches at the start of a pattern. -/
def Flags.initial : Flags := ⟨false, false, false, true, false, false, false⟩

/-- What a single unit of a pattern stands for. -/
inductive Atom where
  | literal (c : Char)
  /-- A character given by two hexadecimal digits. -/
  | byte (n : Nat)
  | set (s : CharSet)
  | assert (a : Assertion)
  | dot
  deriving DecidableEq, Repr

/-- The text behind blanks and comments; a comment runs from `#` to the end of the line. -/
def skipBlanks (inComment : Bool) : List Char → List Char
  | [] => []
  | c :: cs =>
    if inComment then skipBlanks (c ≠ '\n') cs
    else if Text.isBlank c then skipBlanks false cs
    else if c = '#' then skipBlanks true cs
    else c :: cs

/-- The text behind blanks and comments if the notation is extended, else the text. -/
def skip (f : Flags) (cs : List Char) : List Char :=
  if f.extended then skipBlanks false cs else cs

/-- Whether a backslash in front of a character makes it stand for itself. -/
def isEscapable (c : Char) : Bool :=
  c.toNat < 128 && !c.isAlphanum && c ≠ '<' && c ≠ '>'

/-- The character with a number, unless there is none. -/
def charOfNat? (n : Nat) : Option Char :=
  if n < 0xd800 ∨ (0xe000 ≤ n ∧ n < 0x110000) then some (Char.ofNat n) else none

/-- `count` hexadecimal digits, and the rest. -/
def hexDigits? (f : Flags) : Nat → Nat → List Char → Option (Nat × List Char)
  | 0, n, cs => some (n, cs)
  | count + 1, n, cs =>
    match cs with
    | c :: rest => do
      let d ← Text.hexDigit? c
      hexDigits? f count (16 * n + d) (skip f rest)
    | [] => none

/-- The characters up to a closing brace, and what follows the brace. -/
def untilBrace? (extended inComment : Bool) : List Char → Option (List Char × List Char)
  | [] => none
  | c :: cs =>
    if inComment then untilBrace? extended (c ≠ '\n') cs
    else if extended && Text.isBlank c then untilBrace? extended false cs
    else if extended && c = '#' then untilBrace? extended true cs
    else if c = '}' then some ([], cs)
    else (untilBrace? extended false cs).map fun (body, rest) => (c :: body, rest)

/-- The character given by hexadecimal digits: a fixed number of them, or any number in braces. -/
def hexEscape? (f : Flags) (count : Nat) (cs : List Char) : Option (Atom × List Char) :=
  match skip f cs with
  | '{' :: body => do
    let (digits, rest) ← untilBrace? f.extended false body
    let values ← digits.mapM Text.hexDigit?
    if values.isEmpty then none
    else
      let c ← charOfNat? (values.foldl (fun n d => 16 * n + d) 0)
      return (.literal c, skip f rest)
  | cs => do
    let (n, rest) ← hexDigits? f count 0 cs
    if count = 2 then return (.byte n, rest)
    else
      let c ← charOfNat? n
      return (.literal c, rest)

/-- A set as it counts under the switches: closed under letter case, and the complement if
`negated`. -/
def adjust (f : Flags) (negated : Bool) (s : CharSet) : CharSet :=
  let s := if f.insensitive then (if f.unicode then .fold s else .foldAscii s) else s
  s.negatedIf negated

/-- The class that stands in braces: a name, or a name and a value. -/
def namedClass? (body : List Char) : Option (Bool × CharSet) :=
  let text := String.ofList
  let value (mark : Char → Bool) (rest : List Char) : Option CharSet :=
    CharSet.ofNameValue? (text (body.takeWhile (!mark ·))) (text rest)
  let unequal := (Text.splitOnce? ['!', '='] body).map fun (name, value) =>
    (CharSet.ofNameValue? (text name) (text value)).map (true, ·)
  match unequal with
  | some result => result
  | none =>
    match body.dropWhile (· ≠ ':') with
    | _ :: rest => (value (· = ':') rest).map (false, ·)
    | [] =>
      match body.dropWhile (· ≠ '=') with
      | _ :: rest => (value (· = '=') rest).map (false, ·)
      | [] => (CharSet.ofName? (text body)).map (false, ·)

/-- A class of the character database, given by one letter or in braces. -/
def databaseClass? (f : Flags) (negated : Bool) (cs : List Char) : Option (Atom × List Char) := do
  let (unequal, s, rest) ←
    match skip f cs with
    | '{' :: body => do
      let (name, rest) ← untilBrace? f.extended false body
      let (unequal, s) ← namedClass? name
      some (unequal, s, rest)
    | c :: rest => do
      let s ← CharSet.ofName? (String.ofList [c])
      some (false, s, skip f rest)
    | [] => none
  if f.unicode then some (.set (adjust f (negated != unequal) s), rest) else none

/-- The class of digits, blanks or word characters. Without Unicode a complement could match half
a character. -/
def shortClass? (f : Flags) (negated : Bool) (name : NamedClass) (ascii : String)
    (rest : List Char) : Option (Atom × List Char) :=
  if f.unicode then some (.set ((CharSet.named name).negatedIf negated), rest)
  else if negated then none
  else (CharSet.ascii? ascii).map fun s => (.set s, rest)

/-- A word boundary, or one of its halves or directions in braces. What is in the braces counts
only if it begins like a name. -/
def boundary? (f : Flags) (cs : List Char) : Option (Atom × List Char) :=
  let plain : Option (Atom × List Char) := some (.assert (.boundary f.unicode), cs)
  let isNameChar (c : Char) : Bool := c.isAlpha || c = '-'
  match cs with
  | '{' :: body =>
    match skip f body with
    | [] => none
    | c :: _ =>
      if isNameChar c then do
        let (name, rest) ← untilBrace? f.extended false body
        let a ←
          match String.ofList name with
          | "start" => some (Assertion.wordStart f.unicode)
          | "end" => some (Assertion.wordEnd f.unicode)
          | "start-half" => some (Assertion.wordStartHalf f.unicode)
          | "end-half" => some (Assertion.wordEndHalf f.unicode)
          | _ => none
        some (.assert a, rest)
      else plain
  | _ => plain

/-- What an escape stands for, read behind the backslash, and the rest. -/
def escape? (f : Flags) : List Char → Option (Atom × List Char)
  | [] => none
  | c :: rest =>
    if isEscapable c then some (.literal c, rest)
    else
      match c with
      | 'x' => hexEscape? f 2 rest
      | 'u' => hexEscape? f 4 rest
      | 'U' => hexEscape? f 8 rest
      | 'p' => databaseClass? f false rest
      | 'P' => databaseClass? f true rest
      | 'd' => shortClass? f false (.category "Nd") "digit" rest
      | 'D' => shortClass? f true (.category "Nd") "digit" rest
      | 's' => shortClass? f false (.property "White_Space") "space" rest
      | 'S' => shortClass? f true (.property "White_Space") "space" rest
      | 'w' => shortClass? f false .word "word" rest
      | 'W' => shortClass? f true .word "word" rest
      | 'a' => some (.literal '\x07', rest)
      | 'f' => some (.literal '\x0c', rest)
      | 't' => some (.literal '\t', rest)
      | 'n' => some (.literal '\n', rest)
      | 'r' => some (.literal '\r', rest)
      | 'v' => some (.literal '\x0b', rest)
      | 'A' => some (.assert .textStart, rest)
      | 'z' => some (.assert .textEnd, rest)
      | 'b' => boundary? f rest
      | 'B' => some (.assert (.noBoundary f.unicode), rest)
      | '<' => some (.assert (.wordStart f.unicode), rest)
      | '>' => some (.assert (.wordEnd f.unicode), rest)
      | _ => none

end Guardrail.Pattern
