import Guardrail.Pattern.Beginning
import Guardrail.Pattern.Trie
import Std.Data.HashMap

/-!
# The size of a compiled pattern

A pattern is refused if the automaton over bytes that it compiles to takes more than `sizeLimit`
bytes, read forwards or backwards. The states of the automaton are counted in the order in which
they are made, but not kept. States that read the bytes of characters are shared as far as a table
of limited size remembers them; their place in the table depends on their numbers.
-/

namespace Guardrail.Pattern

/-- The bytes that an automaton may take. -/
def sizeLimit : Nat := 1048576

/-- The bytes of a state. -/
def stateBytes : Nat := 32

/-- The bytes of a transition that a state keeps outside of it. -/
def transitionBytes : Nat := 8

/-- The bytes of an alternative that a branching state keeps outside of it. -/
def branchBytes : Nat := 4

/-- The direction in which the automaton reads a text. -/
inductive Direction where
  | forwards
  | backwards
  deriving DecidableEq, Repr

/-- The states that are remembered, by their place in the table: what tells a state from others,
and its number. -/
abbrev SharedStates := Std.HashMap Nat (List Nat × Nat)

/-- An automaton that is being built: the number of its states, the bytes that they take, and the
states of the current set that are remembered. -/
structure Building where
  states : Nat
  bytes : Nat
  shared : SharedStates

/-- A step of building, which fails where the automaton grows too large. -/
abbrev Build := StateT Building Option

namespace Build

/-- A new state and its number. -/
def state (extra : Nat) : Build Nat := do
  let b ← get
  let bytes := b.bytes + stateBytes + extra
  if sizeLimit < bytes then failure
  set { b with states := b.states + 1, bytes }
  return b.states

/-- A new state that branches. -/
def branching (alternatives : Nat) : Build Nat :=
  state (branchBytes * alternatives)

/-- A new state with transitions for ranges of bytes. -/
def reading (transitions : Nat) : Build Nat :=
  state (transitionBytes * transitions)

/-- A step that is taken several times. -/
def times : Nat → Build Unit → Build Unit
  | 0, _ => return
  | n + 1, step => do
    step
    times n step

/-- The place in a table of what tells a state from others. -/
def slot (size : Nat) (key : List Nat) : Nat :=
  let hash := key.foldl (fun (h : UInt64) n => UInt64.mul (UInt64.xor h n.toUInt64) 1099511628211)
    14695981039346656037
  hash.toNat % size

/-- The state that is told from others by a key, made by `make` unless it is remembered. -/
def share (size : Nat) (key : List Nat) (make : Build Nat) : Build Nat := do
  let place := slot size key
  match (← get).shared[place]? with
  | some (key', number) =>
    if key' = key then return number
    else remember place
  | none => remember place
where
  /-- Makes the state and remembers it. -/
  remember (place : Nat) : Build Nat := do
    let number ← make
    modify fun b => { b with shared := b.shared.insert place (key, number) }
    return number

/-- No states are remembered any more. -/
def forget : Build Unit :=
  modify fun b => { b with shared := {} }

end Build

/-- Sequences with one first range that stand side by side are gathered under it. -/
def gather : List ByteRanges → List ((Nat × Nat) × List ByteRanges)
  | [] => []
  | [] :: rest => gather rest
  | (range :: tail) :: rest =>
    match gather rest with
    | (range', tails) :: groups =>
      if range = range' then (range, tail :: tails) :: groups
      else (range, [tail]) :: (range', tails) :: groups
    | [] => [(range, [tail])]

/-- How many states of the characters of a set are remembered, by the direction. -/
def sharedLimit : Direction → Nat
  | .forwards => 10000
  | .backwards => 1000

open Build

/-- The state that reads sequences of at most `k` ranges forwards and goes on to `target`. -/
def readForwards (target : Nat) : Nat → List ByteRanges → Build Nat
  | 0, _ => return target
  | k + 1, seqs => do
    let transitions ← (gather seqs).mapM fun ((first, last), tails) => do
      let next ← if tails.all (·.isEmpty) then pure target else readForwards target k tails
      return [first, last, next]
    share (sharedLimit .forwards) transitions.flatten (reading transitions.length)

/-- The states that read a sequence backwards, from the last range to the first, which goes on to
`target`. -/
def readBackwards (target : Nat) (seq : ByteRanges) : Build Unit := do
  let _ ← seq.foldlM (fun next (first, last) =>
    share (sharedLimit .backwards) [next, first, last] (state 0)) target

/-- The states for a set of characters. -/
def readSet (d : Direction) (ranges : List (Nat × Nat)) : Build Unit := do
  if ranges.all fun (_, last) => last < 0x80 then
    let _ ← state 0
    let _ ← reading ranges.length
  else
    let seqs := ranges.flatMap fun (first, last) => sequences first last
    forget
    match d with
    | .forwards =>
      let target ← state 0
      let _ ← readForwards target 4 seqs
    | .backwards =>
      let _ ← branching seqs.length
      let target ← state 0
      seqs.forM (readBackwards target)

/-- The state for transitions that stand side by side. -/
def readChunk (transitions : Nat) : Build Unit := do
  let _ ← if transitions = 1 then state 0 else reading transitions

mutual

/-- The states for the texts of a trie. -/
def readTrie : Trie → Build Unit
  | .node closed active => do
    let chunks ← readClosed closed
    let more ← readTransitions active
    if !active.isEmpty then readChunk more
    let _ ← branching (chunks + closed.length + if active.isEmpty then 0 else 1)

/-- The states for the transitions in front of the texts that end in a node. Returns how many
lists of transitions are not empty. -/
def readClosed : List (List (Nat × Trie)) → Build Nat
  | [] => return 0
  | ts :: rest => do
    let count ← readTransitions ts
    if !ts.isEmpty then readChunk count
    let chunks ← readClosed rest
    return chunks + if ts.isEmpty then 0 else 1

/-- The states behind transitions. Returns the number of transitions. -/
def readTransitions : List (Nat × Trie) → Build Nat
  | [] => return 0
  | (_, t) :: ts => do
    if !t.isLeaf then readTrie t
    let count ← readTransitions ts
    return count + 1

end

/-- The states for a repetition, given those for what is repeated and whether that takes at least
one character. -/
def repeated (takes : Bool) (least : Nat) (most? : Option Nat) (body : Build Unit) :
    Build Unit := do
  match least, most? with
  | 0, some 1 =>
    let _ ← branching 2
    body
    let _ ← state 0
  | 0, none =>
    if takes then
      let _ ← branching 2
      body
    else
      body
      let _ ← branching 2
      let _ ← branching 2
      let _ ← state 0
  | least, none =>
    times least body
    let _ ← branching 2
  | least, some most =>
    if least = 0 then
      let _ ← state 0
    else times least body
    if least < most then
      let _ ← state 0
      times (most - least) do
        let _ ← branching 2
        body

/-- The states for texts that are alternatives. -/
def readTexts (d : Direction) (texts : List (List Nat)) : Build Unit := do
  let _ ← state 0
  let bytes := texts.map fun text => text.flatMap encode
  readTrie (.ofTexts (if d = .forwards then bytes else bytes.map List.reverse))

mutual

/-- The states for a plan. -/
def build (d : Direction) : Plan → Build Unit
  | .empty => discard (state 0)
  | .literal text => times (text.flatMap encode).length (discard (state 0))
  | .set ranges => readSet d ranges
  | .assert _ => discard (state 0)
  | .times _ least most? body =>
    repeated (body.least?.any (0 < ·)) least most? (build d body)
  | .capture body => do
    if d = .forwards then discard (state 0)
    build d body
    if d = .forwards then discard (state 0)
  | .seq parts => buildAll d parts
  | .alt branches =>
    match branches.mapM Plan.literal? with
    | some texts => readTexts d texts
    | none => buildEach d branches.length 1 branches

/-- The states for plans that follow one another. -/
def buildAll (d : Direction) : List Plan → Build Unit
  | [] => return
  | p :: ps => do
    if d = .forwards then
      build d p
      buildAll d ps
    else
      buildAll d ps
      build d p

/-- The states for alternatives, of which there are `count`; the first one is the one with the
given number. The states at which they part and meet are made behind the second one. -/
def buildEach (d : Direction) (count number : Nat) : List Plan → Build Unit
  | [] => return
  | p :: ps => do
    build d p
    if number = 2 then
      discard (branching count)
      discard (state 0)
    buildEach d count (number + 1) ps

end

/-- The states for a plan and those around it: in front of it the ones that begin a match at any
place, unless a match can only begin at the end from which the text is read, and forwards those that
note where a match begins and ends. -/
def buildWhole (d : Direction) (p : Plan) : Build Unit := do
  let anchored :=
    if d = .forwards then p.begins .textStart false else p.begins .textEnd true
  if anchored then discard (state 0)
  else
    discard (branching 2)
    discard (state 0)
    discard (reading 1)
  build d (.capture p)
  discard (state 0)

/-- Whether the automaton of an expression keeps the limit, or none is needed. -/
def Regex.fits (r : Regex) : Bool :=
  let p := Plan.ofRegex r
  [Direction.forwards, .backwards].all (fun d => ((buildWhole d p).run ⟨0, 0, {}⟩).isSome) ||
    p.isLookup

end Guardrail.Pattern
