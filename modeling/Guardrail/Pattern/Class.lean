import Guardrail.Pattern.Escape

/-!
# Bracketed sets

The content of square brackets: characters, ranges, classes and nested sets, which are united
where they stand side by side and combined by `&&`, `--` and `~~`.
-/

namespace Guardrail.Pattern

/-- A set, how deeply its notation is nested, and of how many parts it is united. -/
structure SetPart where
  set : CharSet
  depth : Nat
  count : Nat
  deriving DecidableEq, Repr

namespace SetPart

/-- No part at all. -/
def none : SetPart := ⟨.empty, 0, 0⟩

/-- A further part of a union. -/
def add (u : SetPart) (s : CharSet) (depth : Nat) : SetPart :=
  ⟨if u.count = 0 then s else .union u.set s, max u.depth depth, u.count + 1⟩

/-- The nesting of a union that is complete. -/
def nesting (u : SetPart) : Nat :=
  if u.count ≤ 1 then u.depth else u.depth + 1

end SetPart

/-- The three ways to combine two sets. -/
inductive SetOperator where
  | intersection
  | difference
  | symmetricDifference
  deriving DecidableEq, Repr

/-- The combination of two sets. -/
def SetOperator.apply (f : Flags) (op : SetOperator) (s t : CharSet) : CharSet :=
  let s := adjust f false s
  let t := adjust f false t
  match op with
  | .intersection => .inter s t
  | .difference => .diff s t
  | .symmetricDifference => .symmDiff s t

/-- An open bracket with what stands in front of it, or a set whose second operand is being
read. -/
inductive SetFrame where
  | bracket (before : SetPart) (negated : Bool)
  | operand (op : SetOperator) (left : CharSet) (depth : Nat)
  deriving DecidableEq, Repr

/-- A bracketed set in the course of reading: the open frames, innermost first, and the union
read so far. -/
structure SetReader where
  frames : List SetFrame
  current : SetPart
  deriving DecidableEq, Repr

namespace SetReader

/-- The dashes at the start of a set, which stand for themselves, and the rest. -/
def leadingDashes (extended inComment : Bool) (u : SetPart) : List Char → SetPart × List Char
  | [] => (u, [])
  | c :: cs =>
    if inComment then leadingDashes extended (c ≠ '\n') u cs
    else if c = '-' then leadingDashes extended false (u.add (.single '-') 0) cs
    else if extended && Text.isBlank c then leadingDashes extended false u cs
    else if extended && c = '#' then leadingDashes extended true u cs
    else (u, c :: cs)

/-- The start of a set behind its bracket: a caret that negates, dashes, and a closing bracket that
stands for itself. -/
def enter? (f : Flags) (frames : List SetFrame) (before : SetPart) (cs : List Char) :
    Option (SetReader × List Char) := do
  let cs := skip f cs
  let (negated, cs) :=
    match cs with
    | '^' :: rest => (true, skip f rest)
    | _ => (false, cs)
  let (dashes, cs) := leadingDashes f.extended false .none cs
  let frames := .bracket before negated :: frames
  match cs with
  | [] => Option.none
  | ']' :: rest =>
    if dashes.count = 0 then
      let rest := skip f rest
      if rest.isEmpty then Option.none else some (⟨frames, dashes.add (.single ']') 0⟩, rest)
    else some (⟨frames, dashes⟩, cs)
  | _ => some (⟨frames, dashes⟩, cs)

/-- The set that the innermost union and the operators in front of it make, and the frames that
remain. -/
def combine (f : Flags) (r : SetReader) : CharSet × Nat × List SetFrame :=
  match r.frames with
  | .operand op left depth :: frames =>
    (op.apply f left r.current.set, max depth r.current.nesting + 1, frames)
  | frames => (r.current.set, r.current.nesting, frames)

/-- An operator: what was read becomes its left operand. -/
def operator (f : Flags) (op : SetOperator) (r : SetReader) : SetReader :=
  let (s, depth, frames) := r.combine f
  ⟨.operand op s depth :: frames, .none⟩

/-- A named class of ASCII characters such as `[:alpha:]`, whether it is negated, and the rest. -/
def asciiClass? : List Char → Option (Bool × CharSet × List Char)
  | '[' :: ':' :: rest => do
    let (negated, rest) :=
      match rest with
      | '^' :: rest => (true, rest)
      | _ => (false, rest)
    let rest' ← Text.after? [':', ']'] (rest.dropWhile (· ≠ ':'))
    let s ← CharSet.ascii? (String.ofList (rest.takeWhile (· ≠ ':')))
    some (negated, s, rest')
  | _ => Option.none

/-- The unit at the start of a text inside brackets. -/
def unit? (f : Flags) : List Char → Option (Atom × List Char)
  | [] => Option.none
  | '\\' :: rest => escape? f rest
  | c :: rest => some (.literal c, rest)

/-- The code point of a unit that is a single character. -/
def literal? (f : Flags) : Atom → Option Nat
  | .literal c => if f.unicode || c.toNat < 128 then some c.toNat else Option.none
  | .byte n => if f.unicode || n < 128 then some n else Option.none
  | _ => Option.none

/-- The set of a unit. -/
def unitSet? (f : Flags) : Atom → Option CharSet
  | .set s => some s
  | a => (literal? f a).map fun n => .range n n

/-- The character behind a dash, blanks and the start of a comment left out. -/
def peek? (f : Flags) (cs : List Char) : Option Char :=
  if f.extended then
    match cs.dropWhile Text.isBlank with
    | '#' :: rest => (rest.dropWhile Text.isBlank).head?
    | rest => rest.head?
  else cs.head?

/-- A unit or a range, added to the union. -/
def range? (f : Flags) (r : SetReader) (cs : List Char) : Option (SetReader × List Char) := do
  let (first, rest) ← unit? f cs
  let rest := skip f rest
  let one : Option (SetReader × List Char) :=
    (unitSet? f first).map fun s => (⟨r.frames, r.current.add s 0⟩, rest)
  match rest with
  | [] => Option.none
  | '-' :: more =>
    if peek? f more = some ']' ∨ peek? f more = some '-' then one
    else
      let more := skip f more
      let (last, rest) ← unit? f more
      let first ← literal? f first
      let last ← literal? f last
      if first ≤ last then some (⟨r.frames, r.current.add (.range first last) 0⟩, rest)
      else Option.none
  | _ => one

/-- What a step inside brackets leads to. -/
inductive Outcome where
  | inside (r : SetReader)
  | closed (s : CharSet) (depth : Nat)
  deriving DecidableEq, Repr

/-- A set that is read, or its complement. Without Unicode a complement could match half a
character. -/
def complete? (f : Flags) (negated : Bool) (s : CharSet) : Option CharSet :=
  if negated && !f.unicode then Option.none else some (adjust f negated s)

/-- A closing bracket. -/
def close? (f : Flags) (r : SetReader) : Option Outcome :=
  match r.combine f with
  | (s, depth, .bracket before negated :: frames) =>
    (complete? f negated s).map fun s =>
      if frames.isEmpty then .closed s (depth + 1)
      else .inside ⟨frames, before.add s (depth + 1)⟩
  | _ => Option.none

/-- One step inside brackets. -/
def step? (f : Flags) (r : SetReader) (cs : List Char) : Option (Outcome × List Char) :=
  match skip f cs with
  | [] => Option.none
  | '[' :: rest =>
    match asciiClass? ('[' :: rest) with
    | some (negated, s, rest) =>
      (complete? f negated s).map fun s => (.inside ⟨r.frames, r.current.add s 0⟩, rest)
    | Option.none => (enter? f r.frames r.current rest).map fun (r, rest) => (.inside r, rest)
  | ']' :: rest => (r.close? f).map (·, rest)
  | '&' :: '&' :: rest => some (.inside (r.operator f .intersection), rest)
  | '-' :: '-' :: rest => some (.inside (r.operator f .difference), rest)
  | '~' :: '~' :: rest => some (.inside (r.operator f .symmetricDifference), rest)
  | cs => (r.range? f cs).map fun (r, rest) => (.inside r, rest)

end SetReader

end Guardrail.Pattern
