import Guardrail.Decimal.Binary
import Guardrail.Decimal.Reading
import Guardrail.Pattern.Class
import Guardrail.Text.Scan

/-!
# Reading patterns

The regular expression that a pattern denotes. The reader keeps the groups that are still open,
the alternatives of the innermost one, and the parts of the alternative that is being read.
Patterns with references or conditions on the text around them, with an operator that has nothing
to act on, or with more than `nestingLimit` nested parts denote nothing.
-/

namespace Guardrail.Pattern

/-- An expression, and how deeply its notation is nested. -/
structure Part where
  regex : Regex
  depth : Nat
  deriving DecidableEq, Repr

/-- A group that is still open: the parts and alternatives in front of it, the switches that
return behind it, and whether it can be referred to. -/
structure Group where
  parts : List (Option Part)
  branches : List Part
  flags : Flags
  captures : Bool
  deriving Repr

/-- The state of a reading. A switch counts as a part, but nothing can be applied to it. -/
structure Reader where
  parts : List (Option Part)
  branches : List Part
  groups : List Group
  flags : Flags
  names : List (List Char)
  set? : Option SetReader
  deriving Repr

/-- The greatest nesting that a pattern may have. -/
def nestingLimit : Nat := 250

namespace Reader

/-- The state in front of a pattern. -/
def start : Reader := ⟨[], [], [], .initial, [], none⟩

/-- The parts read so far, one after the other. -/
def sequence (parts : List (Option Part)) : Part :=
  match parts with
  | [] => ⟨.empty, 0⟩
  | [p] => p.getD ⟨.empty, 0⟩
  | ps =>
    { regex := (ps.filterMap id).foldl (fun r p => if r = .empty then p.regex else .seq p.regex r)
        .empty
      depth := (ps.filterMap id).foldl (fun d p => max d p.depth) 0 + 1 }

/-- The alternatives of the innermost group, the one being read included. -/
def alternatives (r : Reader) : Part :=
  match r.branches with
  | [] => sequence r.parts
  | bs =>
    let last := sequence r.parts
    { regex := bs.foldl (fun s b => .alt b.regex s) last.regex
      depth := bs.foldl (fun d b => max d b.depth) last.depth + 1 }

/-- The reader with a further part. -/
def push (r : Reader) (regex : Regex) (depth : Nat) : Reader :=
  { r with parts := some ⟨regex, depth⟩ :: r.parts }

/-- The expression of a unit. -/
def atomRegex? (f : Flags) : Atom → Option Regex
  | .literal c =>
    some (.chars (if f.unicode || c.toNat < 128 then adjust f false (.single c) else .single c))
  | .byte n =>
    if f.unicode || n < 128 then some (.chars (adjust f false (.range n n))) else none
  | .set s => some (.chars s)
  | .assert a => some (.assert a)
  | .dot =>
    if f.unicode then
      some (.chars (if f.dotAll then .range 0 0x10ffff
        else if f.returns then .compl (.union (.single '\r') (.single '\n'))
        else .compl (.single '\n')))
    else none

/-- The reader with the expression of a unit. -/
def atom? (r : Reader) (a : Atom) : Option Reader :=
  (atomRegex? r.flags a).map (r.push · 0)

/-- The last part repeated, and the text behind a question mark that makes the repetition
reluctant. -/
def repeated? (r : Reader) (least : Nat) (most? : Option Nat) (cs : List Char) :
    Option (Reader × List Char) :=
  let (reluctant, rest) :=
    match cs with
    | '?' :: rest => (true, rest)
    | _ => (false, cs)
  match r.parts with
  | some p :: parts =>
    let regex := .times p.regex least most? (reluctant == r.flags.exchanged)
    some ({ r with parts := some ⟨regex, p.depth + 1⟩ :: parts }, rest)
  | _ => none

/-- The digits at the start of a text and the rest; in the extended notation blanks and comments may
stand behind each of them. -/
def digits (extended : Bool) (read : List Char) (inComment : Bool) :
    List Char → List Char × List Char
  | [] => (read.reverse, [])
  | c :: rest =>
    if inComment then digits extended read (c ≠ '\n') rest
    else if c.isDigit then digits extended (c :: read) false rest
    else if extended && !read.isEmpty && (Text.isBlank c || c = '#') then
      digits extended read (c = '#') rest
    else (read.reverse, c :: rest)

/-- A decimal number between blanks, and the rest; the number must fit 32 bits. -/
def decimal? (f : Flags) (cs : List Char) : Option (Nat × List Char) :=
  let (ds, rest) := digits f.extended [] false (cs.dropWhile Text.isBlank)
  let n := Decimal.natOfDigits ds
  if ds.isEmpty || Decimal.twoTo 32 ≤ n then none
  else some (n, skip f (rest.dropWhile Text.isBlank))

/-- The bounds of a counted repetition, read behind the opening brace, and the rest. -/
def bounds? (f : Flags) (cs : List Char) : Option (Nat × Option Nat × List Char) := do
  let (least, rest) ← decimal? f (skip f cs)
  match rest with
  | '}' :: rest => some (least, some least, rest)
  | ',' :: rest =>
    match skip f rest with
    | '}' :: rest => some (least, none, rest)
    | rest => do
      let (most, rest) ← decimal? f rest
      match rest with
      | '}' :: rest => if least ≤ most then some (least, some most, rest) else none
      | _ => none
  | _ => none

/-- The switch that a letter names, turned on or off. -/
def setFlag? (f : Flags) (on : Bool) : Char → Option Flags
  | 'i' => some { f with insensitive := on }
  | 'm' => some { f with multiline := on }
  | 's' => some { f with dotAll := on }
  | 'u' => some { f with unicode := on }
  | 'R' => some { f with returns := on }
  | 'x' => some { f with extended := on }
  | 'U' => some { f with exchanged := on }
  | _ => none

/-- The switches up to a colon or a closing parenthesis; the letters seen so far may not come
again. The rest starts with the colon or parenthesis. -/
def switches? (f : Flags) (seen : List Char) (on : Bool) : List Char →
    Option (Flags × List Char × List Char)
  | [] => none
  | c :: rest =>
    if c = ':' ∨ c = ')' then
      if seen.head? = some '-' then none else some (f, seen, c :: rest)
    else if c ∈ seen then none
    else if c = '-' then switches? f ('-' :: seen) false rest
    else
      match setFlag? f on c with
      | some f => switches? f (c :: seen) on rest
      | none => none

/-- Whether a character may stand in the name of a group. -/
def isNameChar (first : Bool) (c : Char) : Bool :=
  c = '_' || Unicode.inRanges Unicode.alphabetic c.toNat ||
    (!first && (c = '.' || c = '[' || c = ']' || Unicode.inRanges Unicode.numeric c.toNat))

/-- The name of a group up to the closing angle bracket, and the rest. -/
def groupName? (cs : List Char) : Option (List Char × List Char) :=
  let name := cs.takeWhile (· ≠ '>')
  match cs.dropWhile (· ≠ '>'), name with
  | _ :: rest, c :: others =>
    if isNameChar true c && others.all (isNameChar false) then some (name, rest) else none
  | _, _ => none

/-- A group begins. -/
def enter (r : Reader) (inner : Flags) (captures : Bool) : Reader :=
  { r with
    parts := []
    branches := []
    groups := ⟨r.parts, r.branches, r.flags, captures⟩ :: r.groups
    flags := inner }

/-- A named group begins. -/
def enterNamed? (r : Reader) (cs : List Char) : Option (Reader × List Char) := do
  let (name, rest) ← groupName? cs
  if name ∈ r.names then none
  else some (({ r with names := name :: r.names }).enter r.flags true, rest)

/-- A parenthesis opens: a group, or switches for the rest of the group around it. -/
def openGroup? (r : Reader) (cs : List Char) : Option (Reader × List Char) :=
  match skip r.flags cs with
  | '?' :: 'P' :: '<' :: rest => enterNamed? r rest
  | '?' :: '=' :: _ => none
  | '?' :: '!' :: _ => none
  | '?' :: '<' :: '=' :: _ => none
  | '?' :: '<' :: '!' :: _ => none
  | '?' :: '<' :: rest => enterNamed? r rest
  | '?' :: rest => do
    let (f, seen, rest) ← switches? r.flags [] true rest
    match rest with
    | ')' :: rest =>
      if seen.isEmpty then none else some ({ r with parts := none :: r.parts, flags := f }, rest)
    | _ :: rest => some (r.enter f false, rest)
    | [] => none
  | rest => some (r.enter r.flags true, rest)

/-- A parenthesis closes. -/
def closeGroup? (r : Reader) : Option Reader :=
  match r.groups with
  | [] => none
  | g :: groups =>
    let inner := r.alternatives
    some { r with
      parts := some ⟨.group g.captures inner.regex, inner.depth + 1⟩ :: g.parts
      branches := g.branches
      groups := groups
      flags := g.flags }

/-- The assertion of a caret or a dollar sign. -/
def lineAssertion (f : Flags) (atStart : Bool) : Assertion :=
  if !f.multiline then (if atStart then .textStart else .textEnd)
  else if f.returns then (if atStart then .lineStartReturn else .lineEndReturn)
  else if atStart then .lineStart
  else .lineEnd

/-- One step outside brackets. -/
def step? (r : Reader) (cs : List Char) : Option (Reader × List Char) :=
  match cs with
  | [] => some (r, [])
  | '(' :: rest => r.openGroup? rest
  | ')' :: rest => r.closeGroup?.map (·, rest)
  | '|' :: rest =>
    some ({ r with parts := [], branches := sequence r.parts :: r.branches }, rest)
  | '[' :: rest =>
    (SetReader.enter? r.flags [] .none rest).map fun (s, rest) => ({ r with set? := some s }, rest)
  | '?' :: rest => r.repeated? 0 (some 1) rest
  | '*' :: rest => r.repeated? 0 none rest
  | '+' :: rest => r.repeated? 1 none rest
  | '{' :: rest => do
    let (least, most?, rest) ← bounds? r.flags rest
    r.repeated? least most? (skip r.flags rest)
  | '\\' :: rest => do
    let (a, rest) ← escape? r.flags rest
    let r ← r.atom? a
    some (r, rest)
  | '.' :: rest => (r.atom? .dot).map (·, rest)
  | '^' :: rest => (r.atom? (.assert (lineAssertion r.flags true))).map (·, rest)
  | '$' :: rest => (r.atom? (.assert (lineAssertion r.flags false))).map (·, rest)
  | c :: rest => (r.atom? (.literal c)).map (·, rest)

/-- One step of a reading. -/
def advance? (r : Reader) (cs : List Char) : Option (Reader × List Char) :=
  match r.set? with
  | none => r.step? (skip r.flags cs)
  | some s => do
    let (outcome, rest) ← s.step? r.flags cs
    match outcome with
    | .inside s => some ({ r with set? := some s }, rest)
    | .closed s depth => some (({ r with set? := none }).push (.chars s) depth, rest)

/-- The expression that has been read, if the pattern may end here. -/
def result? (r : Reader) : Option Regex :=
  let p := r.alternatives
  if r.groups.isEmpty && r.set?.isNone && p.depth ≤ nestingLimit then some p.regex else none

end Reader

/-- The expression that a pattern denotes. -/
def Regex.ofPattern? (pattern : String) : Option Regex :=
  (Text.scan Reader.advance? Reader.start pattern.toList).bind Reader.result?

end Guardrail.Pattern
