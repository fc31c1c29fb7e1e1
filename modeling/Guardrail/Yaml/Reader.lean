import Guardrail.Yaml.Layout
import Guardrail.Yaml.Node

/-!
# Reading YAML

The content that the tokens of a text describe. A text holds one document. An anchor gives its name
to what follows it, and a copy refers to that.
-/

namespace Guardrail.Yaml

/-- The state of a reading. -/
structure Reader where
  tokens : List Token
  anchors : Anchors
  /-- The handles and what they stand for. -/
  handles : List (String × TagName)
  /-- The number of texts, of copies, and of beginnings and ends of lists and mappings. -/
  parts : Nat
  deriving Repr

/-- A part of the reading. -/
abbrev Reading := StateT Reader Option

namespace Reader

/-- The next token, which stays where it is. -/
def peek? : Reading (Option Token) := do
  return (← get).tokens.head?

/-- The next token is passed over. -/
def skip : Reading Unit :=
  modify fun r => { r with tokens := r.tokens.tail }

/-- Whether the next token is the given one, which is passed over in that case. -/
def accept (t : Token) : Reading Bool := do
  if (← peek?) = some t then
    skip
    return true
  else return false

/-- The next token has to be the given one. -/
def expect (t : Token) : Reading Unit := do
  if !(← accept t) then failure

/-- Whether the next token is one of the given ones. -/
def isBefore (ts : List Token) : Reading Bool := do
  return (← peek?).any (· ∈ ts)

/-- One more part has been read, or several. -/
def count (n : Nat) : Reading Unit :=
  modify fun r => { r with parts := r.parts + n }

/-- The name that a tag stands for. -/
def nameOf (t : Tag) : Reading TagName := do
  if t.handle = "" then return t.suffix
  else
    match (← get).handles.lookup t.handle with
    | some start => return start ++ t.suffix
    | none => failure

/-- Words that are missing. -/
def missing : Reading Node := do
  count 1
  return .words .plain none ""

/-- A part that is missing, which only an anchor or a tag allows. -/
def absent (hasProperties : Bool) (name? : Option TagName) : Reading Node := do
  if hasProperties then
    count 1
    return .words .plain name? ""
  else failure

/-- An anchor and a tag, in any order and each at most once. -/
def properties : Reading (Option String × Option TagName) := do
  match ← peek? with
  | some (.anchor anchor) =>
    skip
    match ← peek? with
    | some (.tag tag) =>
      skip
      return (some anchor, some (← nameOf tag))
    | _ => return (some anchor, none)
  | some (.tag tag) =>
    skip
    match ← peek? with
    | some (.anchor anchor) =>
      skip
      return (some anchor, some (← nameOf tag))
    | _ => return (none, some (← nameOf tag))
  | _ => return (none, none)

/-- The content of the anchor of a name once more. -/
def copyOf (name : String) : Reading Node := do
  match (← get).anchors.places.lookup name with
  | some place =>
    count 1
    return .copy place
  | none => failure

/-- What `read` reads, under the name of an anchor. -/
def anchored (name? : Option String) (read : Reading Node) : Reading Node := do
  match name? with
  | none => read
  | some name =>
    let number := (← get).anchors.size
    modify fun r => { r with anchors := r.anchors.begin name }
    let content ← read
    modify fun r => { r with anchors := r.anchors.finish number content }
    return content

/-- Where a part of a document stands. -/
inductive Position where
  | flow
  | block
  /-- Behind a key, where a list need not be indented. -/
  | blockValue
  deriving DecidableEq, Repr

/-- The tokens in front of which a key or value of a mapping without brackets is missing. -/
def blockMapEnds : List Token := [.key, .value, .blockEnd]

/-- The tokens in front of which a part of a pair in a list with brackets is missing. -/
def flowPairEnds : List Token := [.comma, .closeList]

/-- The tokens in front of which a value of a mapping with brackets is missing. -/
def flowMapEnds : List Token := [.comma, .closeMap]

mutual

/-- A part of a document. -/
def node (fuel : Nat) (position : Position) : Reading Node := do
  match fuel with
  | 0 => failure
  | fuel + 1 =>
    match ← peek? with
    | some (.copy name) =>
      skip
      copyOf name
    | _ =>
      let (anchor?, name?) ← properties
      anchored anchor? (content fuel position (anchor?.isSome || name?.isSome) name?)

/-- A part of a document behind its anchor and its tag. Behind one of these it may be missing. The
tag of an exclamation mark alone says nothing about words. -/
def content (fuel : Nat) (position : Position) (hasProperties : Bool) (name? : Option TagName) :
    Reading Node := do
  match fuel with
  | 0 => failure
  | fuel + 1 =>
    match ← peek? with
    | some (.words style text) =>
      skip
      count 1
      return .words style (name?.filter (· ≠ .ofString "!")) text
    | some .item =>
      if position = .blockValue then
        count 2
        return .list name? (← looseItems fuel)
      else absent hasProperties name?
    | some .openList =>
      skip
      count 2
      return .list name? (← flowItems fuel true)
    | some .openMap =>
      skip
      count 2
      return .map name? (← flowEntries fuel true)
    | some .blockList =>
      if position = .flow then absent hasProperties name?
      else
        skip
        count 2
        return .list name? (← blockItems fuel)
    | some .blockMap =>
      if position = .flow then absent hasProperties name?
      else
        skip
        count 2
        return .map name? (← blockEntries fuel)
    | _ => absent hasProperties name?

/-- A part, or nothing in front of the given tokens. -/
def nodeUnless (fuel : Nat) (ends : List Token) (position : Position) : Reading Node := do
  match fuel with
  | 0 => failure
  | fuel + 1 => if ← isBefore ends then missing else node fuel position

/-- The items of an indented list. -/
def blockItems (fuel : Nat) : Reading (List Node) := do
  match fuel with
  | 0 => failure
  | fuel + 1 =>
    if ← accept .item then
      let d ← nodeUnless fuel [.item, .blockEnd] .block
      return d :: (← blockItems fuel)
    else
      expect .blockEnd
      return []

/-- The items of a list that is not indented. -/
def looseItems (fuel : Nat) : Reading (List Node) := do
  match fuel with
  | 0 => failure
  | fuel + 1 =>
    if ← accept .item then
      let d ← nodeUnless fuel [.item, .key, .value, .blockEnd] .block
      return d :: (← looseItems fuel)
    else return []

/-- The entries of an indented mapping. -/
def blockEntries (fuel : Nat) : Reading (List (Node × Node)) := do
  match fuel with
  | 0 => failure
  | fuel + 1 =>
    if ← accept .key then
      let k ← nodeUnless fuel blockMapEnds .blockValue
      let d ←
        if ← accept .value then nodeUnless fuel blockMapEnds .blockValue else missing
      return (k, d) :: (← blockEntries fuel)
    else
      expect .blockEnd
      return []

/-- The items of a list with brackets. -/
def flowItems (fuel : Nat) (first : Bool) : Reading (List Node) := do
  match fuel with
  | 0 => failure
  | fuel + 1 =>
    if ← accept .closeList then return []
    else
      if !first then expect .comma
      if ← accept .key then
        count 2
        let entry ← flowPair fuel
        return .map none [entry] :: (← flowItems fuel false)
      else if ← accept .closeList then return []
      else
        let d ← node fuel .flow
        return d :: (← flowItems fuel false)

/-- The key and the value of a pair that is an item of a list with brackets. Where the key is
missing, the token behind it is passed over. -/
def flowPair (fuel : Nat) : Reading (Node × Node) := do
  match fuel with
  | 0 => failure
  | fuel + 1 =>
    let k ←
      if ← isBefore (.value :: flowPairEnds) then
        skip
        missing
      else node fuel .flow
    let d ← if ← accept .value then nodeUnless fuel flowPairEnds .flow else missing
    return (k, d)

/-- The entries of a mapping with brackets. -/
def flowEntries (fuel : Nat) (first : Bool) : Reading (List (Node × Node)) := do
  match fuel with
  | 0 => failure
  | fuel + 1 =>
    if ← accept .closeMap then return []
    else
      if !first then expect .comma
      if ← accept .key then
        let k ← nodeUnless fuel (.value :: flowMapEnds) .flow
        let d ← if ← accept .value then nodeUnless fuel flowMapEnds .flow else missing
        return (k, d) :: (← flowEntries fuel false)
      else if ← accept .closeMap then return []
      else
        let k ← node fuel .flow
        let d ← missing
        return (k, d) :: (← flowEntries fuel false)

end

/-- The handles that need not be declared. -/
def standardHandles : List (String × TagName) :=
  [("!", .ofString "!"), ("!!", .ofString "tag:yaml.org,2002:")]

/-- The state in front of the tokens of a text. -/
def start (tokens : List Token) : Reader :=
  { tokens, anchors := .none, handles := [], parts := 0 }

/-- The directives of a document: at most one version, and each handle once. -/
def directives? : Bool → List (String × TagName) → List Token →
    Option (List (String × TagName) × List Token)
  | true, _, .version :: _ => none
  | false, handles, .version :: tokens => directives? true handles tokens
  | versioned, handles, .handle name start :: tokens =>
    if (handles.lookup name).isSome then none
    else directives? versioned ((name, start) :: handles) tokens
  | _, handles, tokens => some (handles, tokens)

/-- The mark that begins a document, which only a document without directives may lack. -/
def opening : Reading Bool := do
  let r ← get
  match directives? false [] r.tokens with
  | none => failure
  | some (handles, tokens) =>
    set { r with tokens, handles := handles ++ standardHandles }
    let begun ← accept .documentStart
    if tokens.length < r.tokens.length ∧ !begun then failure
    return begun

/-- A document. Behind the mark that begins it, it may be missing. -/
def document (fuel : Nat) : Reading Node := do
  let begun ← opening
  match ← peek? with
  | none => if begun then missing else failure
  | some .documentStart | some .documentEnd | some .version | some (.handle _ _) =>
    if begun then missing else failure
  | some _ => node fuel .block

end Reader

/-- The content of a text. -/
def Graph.ofText? (s : String) : Option Graph := do
  if !s.toList.all isReadable then none
  else
    let tokens ← Token.ofChars? s.toList
    let (root, r) ← (Reader.document (4 * tokens.length + 4)).run (.start tokens)
    if r.tokens.all (· = .documentEnd) then some ⟨root, r.anchors, r.parts⟩ else none

end Guardrail.Yaml
