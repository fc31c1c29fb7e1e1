import Guardrail.Pattern.Plan
import Guardrail.Pattern.Utf8

/-!
# What matches begin with

The texts that the matches of a plan begin with, as far as they are few and short. If they are the
matches themselves, and are worth looking for, they are looked up without an automaton; so are very
many alternatives that are texts.
-/

namespace Guardrail.Pattern

/-- The bytes that a match begins with. -/
structure Beginning where
  bytes : List Nat
  /-- Whether they are a match. -/
  whole : Bool
  deriving DecidableEq, Repr

namespace Beginning

/-- What a longer match begins with. -/
def openEnded (b : Beginning) : Beginning :=
  { b with whole := false }

/-- At most `n` bytes of a beginning. -/
def cut (n : Nat) (b : Beginning) : Beginning :=
  if b.bytes.length ≤ n then b else ⟨b.bytes.take n, false⟩

/-- Beginnings that stand side by side and have the same bytes become one. -/
def merge : List Beginning → List Beginning
  | [] => []
  | b :: bs =>
    match merge bs with
    | c :: cs => if b.bytes = c.bytes then ⟨b.bytes, b.whole && c.whole⟩ :: cs else b :: c :: cs
    | [] => [b]

/-- The beginnings that do not continue an earlier one. -/
def preferred (bs : List Beginning) : List Beginning :=
  (bs.foldl (fun kept b =>
    if kept.any (·.bytes.isPrefixOf b.bytes) then kept else b :: kept) []).reverse

/-- The number of bytes at the start that two lists have in common. -/
def commonLength : List Nat → List Nat → Nat
  | a :: as, b :: bs => if a = b then commonLength as bs + 1 else 0
  | _, _ => 0

/-- The bytes that all beginnings begin with. -/
def common : List Beginning → List Nat
  | [] => []
  | b :: bs => b.bytes.take (bs.foldl (fun n c => min n (commonLength b.bytes c.bytes))
      b.bytes.length)

/-- Whether a byte is frequent in texts. -/
def isFrequent (byte : Nat) : Bool :=
  0xc0 ≤ byte ||
    Char.ofNat byte ∈ "\n\r (),-./0129:_abcdefghilmnoprstuvxy|".toList

/-- To how many bytes beginnings are cut, one after the other, while there are more of them than
the second number. -/
def cuts : List (Nat × Nat) :=
  [(5, 10), (4, 10), (3, 64), (2, 64), (1, 10)]

/-- The beginnings cut until they are few. -/
def shortened (bs : List Beginning) : List (Nat × Nat) → List Beginning
  | [] => bs
  | (n, count) :: rest =>
    if bs.length ≤ count then bs else shortened (preferred (bs.map (cut n))) rest

/-- The beginnings that are looked for: what they have in common if that tells enough, or short
ones if these are few and not too short, or else the beginnings themselves. -/
def sought (bs : List Beginning) : List Beginning :=
  let several := 1 < bs.length
  let bs := preferred bs
  let shared := common bs
  if several ∧ shared.length ≤ 3 ∧ shared.head?.any (!isFrequent ·) then merge (bs.map (cut 1))
  else
    let few := bs.all (·.whole) && bs.length ≤ 16
    let bs :=
      if 4 < shared.length ∨ (1 < shared.length ∧ !few) then merge (bs.map (cut shared.length))
      else bs
    let short := shortened bs cuts
    if bs.all (·.whole) && (64 < short.length || short.any (·.bytes.length ≤ 2)) then bs
    else short

end Beginning

/-- What the matches of a plan begin with, unless too little is known. -/
abbrev Beginnings := Option (List Beginning)

namespace Beginnings

/-- The most beginnings that are kept. -/
def countLimit : Nat := 250

/-- The most bytes of a beginning. -/
def lengthLimit : Nat := 100

/-- The most members of a set that are told apart. -/
def setLimit : Nat := 10

/-- The most turns of a repetition that are followed. -/
def turnLimit : Nat := 10

/-- The match that takes no characters. -/
def nothing : Beginnings := some [⟨[], true⟩]

/-- Beginnings of longer matches. -/
def openEnded (s : Beginnings) : Beginnings :=
  s.map (·.map Beginning.openEnded)

/-- Whether nothing behind them makes beginnings longer. -/
def areOpenEnded (s : Beginnings) : Bool :=
  s.all (·.all (!·.whole))

/-- What matches of one plan behind those of another begin with. -/
def followedBy (s t : Beginnings) : Beginnings :=
  match s, t with
  | none, _ => none
  | some bs, none => unknown bs
  | some bs, some cs =>
    if countLimit < bs.length * cs.length then unknown bs
    else
      some ((Beginning.merge (bs.flatMap fun b =>
        if b.whole then cs.map fun c => ⟨b.bytes ++ c.bytes, c.whole⟩ else [b])).map
          (Beginning.cut lengthLimit))
where
  /-- The beginnings where nothing is known of what follows. -/
  unknown (bs : List Beginning) : Beginnings :=
    if bs.any (·.bytes.isEmpty) then none
    else openEnded (some (bs.map (Beginning.cut lengthLimit)))

/-- What matches of either of two plans begin with. Too many beginnings are shortened first. -/
def either (s t : Beginnings) : Beginnings :=
  match s, t with
  | some bs, some cs =>
    if bs.length + cs.length ≤ countLimit then some (Beginning.merge (bs ++ cs))
    else
      let bs := Beginning.merge (bs.map (Beginning.cut 4))
      let cs := Beginning.merge (cs.map (Beginning.cut 4))
      if bs.length + cs.length ≤ countLimit then some (Beginning.merge (bs ++ cs)) else none
  | _, _ => none

/-- What so many turns in front of others begin with. -/
def turns (s : Beginnings) : Nat → Beginnings → Beginnings
  | 0, t => t
  | n + 1, t => if t.areOpenEnded then t else turns s n (t.followedBy s)

/-- What a repetition begins with. -/
def repeated (eager : Bool) (least : Nat) (most? : Option Nat) (s : Beginnings) : Beginnings :=
  if least = 0 then
    let s := if most? = some 1 then s else s.openEnded
    if eager then s.either nothing else nothing.either s
  else
    let t := s.turns (min least turnLimit) nothing
    if most? = some least ∧ least ≤ turnLimit then t else t.openEnded

/-- The characters of a set. -/
def ofSet (ranges : List (Nat × Nat)) : Beginnings :=
  if setLimit < (ranges.map fun (first, last) => last + 1 - first).foldl (· + ·) 0 then none
  else
    some (ranges.flatMap fun (first, last) =>
      (List.range (last + 1 - first)).map fun i => ⟨encode (first + i), true⟩)

mutual

/-- What the matches of a plan begin with. -/
def ofPlan : Plan → Beginnings
  | .empty => nothing
  | .assert _ => nothing
  | .literal text => some [Beginning.cut lengthLimit ⟨text.flatMap encode, true⟩]
  | .set ranges => ofSet ranges
  | .times eager least most? body => repeated eager least most? (ofPlan body)
  | .capture body => ofPlan body
  | .seq parts => ofParts nothing parts
  | .alt branches => ofBranches (some []) branches

/-- What matches of further parts behind others begin with. -/
def ofParts (s : Beginnings) : List Plan → Beginnings
  | [] => s
  | p :: ps => if s.areOpenEnded then s else ofParts (s.followedBy (ofPlan p)) ps

/-- What matches of further branches beside others begin with. -/
def ofBranches (s : Beginnings) : List Plan → Beginnings
  | [] => s
  | p :: ps => if s.isNone then s else ofBranches (s.either (ofPlan p)) ps

end

end Beginnings

namespace Plan

mutual

/-- Whether a plan has neither groups that can be referred to nor assertions. -/
def isPlain : Plan → Bool
  | .assert _ => false
  | .capture _ => false
  | .times _ _ _ body => isPlain body
  | .seq parts => arePlain parts
  | .alt branches => arePlain branches
  | _ => true

/-- `isPlain` for all of them. -/
def arePlain : List Plan → Bool
  | [] => true
  | p :: ps => isPlain p && arePlain ps

end

/-- The text that a plan is. -/
def literal? : Plan → Option (List Nat)
  | .literal text => some text
  | _ => none

/-- The number of alternatives that are texts from which on they are looked up. -/
def lookupSize : Nat := 3000

/-- Whether a plan is looked up without an automaton. -/
def isLookup (p : Plan) : Bool :=
  let texts :=
    match Beginnings.ofPlan p with
    | some bs =>
      let sought := Beginning.sought bs
      !sought.isEmpty && sought.all fun b => b.whole && !b.bytes.isEmpty
    | none => false
  match p with
  | .alt branches =>
    (isPlain p && texts) ||
      (lookupSize ≤ branches.length && branches.all fun p => p.literal?.isSome)
  | p => isPlain p && texts

end Plan

end Guardrail.Pattern
