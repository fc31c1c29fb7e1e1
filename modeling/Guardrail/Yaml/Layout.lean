import Guardrail.Text.Scan
import Guardrail.Yaml.Block
import Guardrail.Yaml.Name
import Guardrail.Yaml.Plain
import Guardrail.Yaml.Quoted
import Guardrail.Yaml.Token

/-!
# The layout of YAML texts

Outside brackets the columns in which items and keys stand say what belongs together: a list or
mapping begins at a column further right than those open so far, and ends in front of a token
further left. A text becomes a key only when a colon follows it on its line, so the layout keeps
the last token that may turn out to begin a key.
-/

namespace Guardrail.Yaml

/-- A place in a text: its line, its column in characters, and the number of bytes in front of
it. -/
structure Place where
  line : Nat
  column : Nat
  index : Nat
  deriving Repr

namespace Place

/-- The place behind a text. -/
def past (p : Place) (cs : List Char) : Place :=
  cs.foldl (fun p c =>
    let index := p.index + c.utf8Size
    if isBreak c then ⟨p.line + 1, 0, index⟩ else ⟨p.line, p.column + 1, index⟩) p

end Place

/-- A token that begins a key if a colon follows. -/
structure KeyCandidate where
  place : Place
  /-- The number of tokens in front of it. -/
  position : Nat
  /-- Whether nothing but a key may stand here. -/
  required : Bool
  deriving Repr

/-- What is known between two tokens. -/
structure Layout where
  place : Place
  /-- The tokens so far, last first. -/
  tokens : List Token
  /-- The number of tokens so far. -/
  count : Nat
  /-- The columns of the open lists and mappings without brackets, innermost first. -/
  indents : List Nat
  candidate? : Option KeyCandidate
  /-- The candidates in front of the brackets that are open, innermost first. -/
  outer : List (Option KeyCandidate)
  /-- Whether a key may begin here. -/
  keyAllowed : Bool
  deriving Repr

namespace Layout

/-- The layout in front of a text. -/
def start : Layout :=
  { place := ⟨0, 0, 0⟩, tokens := [], count := 0, indents := [], candidate? := none, outer := [],
    keyAllowed := true }

/-- Whether brackets are open. -/
def flow (s : Layout) : Bool := !s.outer.isEmpty

/-- The least column of what belongs into the innermost list or mapping. -/
def floor (s : Layout) : Nat := s.indents.head?.elim 0 (· + 1)

/-- The layout with one more token. -/
def emit (s : Layout) (t : Token) : Layout :=
  { s with tokens := t :: s.tokens, count := s.count + 1 }

/-- The layout with further tokens in front of the one at a position; the given ones stand last
first. -/
def insert (s : Layout) (position : Nat) (ts : List Token) : Layout :=
  { s with
    tokens := s.tokens.take (s.count - position) ++ ts ++ s.tokens.drop (s.count - position)
    count := s.count + ts.length }

/-- The layout behind a text that has no token of its own. -/
def past (s : Layout) (cs : List Char) : Layout :=
  { s with place := s.place.past cs }

/-- The layout behind the text in front of `rest`, of which `cs` is the whole. -/
def moveTo (s : Layout) (cs rest : List Char) : Layout :=
  s.past (cs.take (cs.length - rest.length))

/-- The most bytes of a key that need not be announced. -/
def keyLimit : Nat := 1024

/-- A candidate on an earlier line or too far back is none any more. -/
def expire? (s : Layout) : Option Layout :=
  match s.candidate? with
  | none => some s
  | some k =>
    if k.place.line < s.place.line ∨ k.place.index + keyLimit < s.place.index then
      if k.required then none else some { s with candidate? := none }
    else some s

/-- The candidate begins no key. -/
def dropKey? (s : Layout) : Option Layout :=
  if s.candidate?.any (·.required) then none else some { s with candidate? := none }

/-- The next token is a candidate, if a key may begin here. -/
def markKey? (s : Layout) : Option Layout :=
  if s.keyAllowed then
    let required := !s.flow && s.indents.head? = some s.place.column
    (s.dropKey?).map ({ · with candidate? := some ⟨s.place, s.count, required⟩ })
  else some s

/-- Whether a list or mapping at a column would be a new one. -/
def isDeeper (s : Layout) (column : Nat) : Bool :=
  !s.flow && s.floor ≤ column

/-- A list or mapping at the current column begins, unless it is open already. -/
def openBlock (s : Layout) (t : Token) : Layout :=
  if s.isDeeper s.place.column then
    { s with indents := s.place.column :: s.indents }.emit t
  else s

/-- The lists and mappings with columns that satisfy `p` end, innermost first. -/
def closeWhile (s : Layout) (p : Nat → Bool) : Layout :=
  if s.flow then s
  else
    { (s.indents.takeWhile p).foldl (fun s _ => s.emit .blockEnd) s with
      indents := s.indents.dropWhile p }

/-- One more pair of brackets is open. -/
def enter (s : Layout) : Layout :=
  { s with candidate? := none, outer := s.candidate? :: s.outer }

/-- The innermost pair of brackets is closed. -/
def leave (s : Layout) : Layout :=
  match s.outer with
  | [] => s
  | k :: outer => { s with candidate? := k, outer }

/-- The dash of an item. -/
def item? (s : Layout) : Option Layout :=
  if !s.flow && !s.keyAllowed then none
  else
    (s.openBlock .blockList).dropKey?.map fun s =>
      { s with keyAllowed := true }.emit .item

/-- The question mark of a key. -/
def announceKey? (s : Layout) : Option Layout :=
  if !s.flow && !s.keyAllowed then none
  else
    (s.openBlock .blockMap).dropKey?.map fun s =>
      { s with keyAllowed := !s.flow }.emit .key

/-- The colon of a value: what was a candidate has begun a key. -/
def value? (s : Layout) : Option Layout :=
  match s.candidate? with
  | some k =>
    let column := k.place.column
    let s :=
      if s.isDeeper column then
        { s with indents := column :: s.indents }.insert k.position [.key, .blockMap]
      else s.insert k.position [.key]
    some ({ s with candidate? := none, keyAllowed := false }.emit .value)
  | none =>
    if !s.flow && !s.keyAllowed then none
    else some ({ s.openBlock .blockMap with keyAllowed := !s.flow }.emit .value)

/-- A token that may begin a key and in front of which one may; none may follow it. -/
def word? (s : Layout) (t : Token) : Option Layout :=
  s.markKey?.map fun s => { s with keyAllowed := false }.emit t

/-- The mark that begins or ends a document, or a directive. -/
def documentToken? (s : Layout) (t : Token) : Option Layout :=
  (s.closeWhile fun _ => true).dropKey?.map fun s => { s with keyAllowed := false }.emit t

/-- An opening bracket. -/
def openFlow? (s : Layout) (t : Token) : Option Layout :=
  s.markKey?.map fun s => { s.enter with keyAllowed := true }.emit t

/-- A closing bracket. -/
def closeFlow? (s : Layout) (t : Token) : Option Layout :=
  s.dropKey?.map fun s => { s.leave with keyAllowed := false }.emit t

/-- A comma. -/
def comma? (s : Layout) : Option Layout :=
  s.dropKey?.map fun s => { s with keyAllowed := true }.emit .comma

/-- The token that a single character is; `cs` follows it. -/
def indicator? (s : Layout) (c : Char) (cs : List Char) : Option (Option Layout) :=
  if c = '[' then some (s.openFlow? .openList)
  else if c = '\x7b' then some (s.openFlow? .openMap)
  else if c = ']' then some (s.closeFlow? .closeList)
  else if c = '\x7d' then some (s.closeFlow? .closeMap)
  else if c = ',' then some s.comma?
  else if c = '-' ∧ endsWord cs then some s.item?
  else if c = '?' ∧ (s.flow ∨ endsWord cs) then some s.announceKey?
  else if c = ':' ∧ (s.flow ∨ endsWord cs) then some s.value?
  else none

/-- The characters that begin no plain text. -/
def isIndicator (c : Char) : Bool :=
  c ∈ "-?:,[]\x7b\x7d#&*!|>'\"%@\x60".toList

/-- Whether `c`, which `cs` follows, begins a plain text. -/
def beginsPlain (s : Layout) (c : Char) (cs : List Char) : Bool :=
  (!isGap c && !isIndicator c) || (c = '-' && !cs.head?.any isSpace) ||
    (!s.flow && (c = '?' || c = ':') && !endsWord cs)

/-- A token of several characters that begins with `c`, which `cs` follows. -/
def longToken? (s : Layout) (c : Char) (cs : List Char) : Option (Layout × List Char) :=
  let all := c :: cs
  if c = '*' then do
    let (name, rest) ← anchorName? cs
    return ((← s.word? (.copy name)).moveTo all rest, rest)
  else if c = '&' then do
    let (name, rest) ← anchorName? cs
    return ((← s.word? (.anchor name)).moveTo all rest, rest)
  else if c = '!' then do
    let (tag, rest) ← Tag.read? s.flow cs
    return ((← s.word? (.tag tag)).moveTo all rest, rest)
  else if !s.flow && (c = '|' || c = '>') then do
    let s ← s.dropKey?
    let (words, rest) ← Block.read? (c = '>') s.floor cs
    let style := if c = '>' then .folded else .literal
    let s := { s with keyAllowed := true }.emit (.words style (String.ofList words))
    return (s.moveTo all rest, rest)
  else if c = '\'' ∨ c = '"' then do
    let (words, rest) ← Quoted.read? (c = '"') cs
    return ((← s.word? (.words .quoted (String.ofList words))).moveTo all rest, rest)
  else if s.beginsPlain c cs then do
    let plain ← PlainContext.read? ⟨s.flow, s.floor⟩ all
    let s ← s.word? (.words .plain (String.ofList plain.text))
    return ({ s with keyAllowed := plain.crossed }.moveTo all plain.rest, plain.rest)
  else none

/-- One token. -/
def token? (s : Layout) (c : Char) (cs : List Char) : Option (Layout × List Char) := do
  let s ← s.expire?
  let s := s.closeWhile (s.place.column < ·)
  let all := c :: cs
  if s.place.column = 0 ∧ c = '%' then
    let (token, rest) ← Token.directive? cs
    return ((← s.documentToken? token).moveTo all rest, rest)
  else if s.place.column = 0 ∧ atDocumentMark all then
    let token := if c = '-' then .documentStart else .documentEnd
    return ((← s.documentToken? token).past (all.take 3), all.drop 3)
  else
    match s.indicator? c cs with
    | some s? => s?.map fun s => (s.past [c], cs)
    | none => s.longToken? c cs

/-- A break, a blank, a comment or a token. A tab is a blank where no key may begin. -/
def step? (s : Layout) : List Char → Option (Layout × List Char)
  | [] => some (s, [])
  | c :: cs =>
    if isBreak c then
      some ({ s with keyAllowed := s.keyAllowed || !s.flow }.past [c], cs)
    else if c = ' ' ∨ (c = '\t' ∧ (s.flow ∨ !s.keyAllowed)) ∨
        (c = '\ufeff' ∧ s.place.column = 0) then
      some (s.past [c], cs)
    else if c = '#' then some (s.moveTo (c :: cs) (skipLine cs), skipLine cs)
    else s.token? c cs

/-- The tokens of the text that has been read. -/
def finish? (s : Layout) : Option (List Token) := do
  return (← (s.closeWhile fun _ => true).dropKey?).tokens.reverse

end Layout

/-- The tokens of a text. -/
def Token.ofChars? (cs : List Char) : Option (List Token) := do
  (← Text.scan Layout.step? .start (unifyBreaks cs)).finish?

end Guardrail.Yaml
