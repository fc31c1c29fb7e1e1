import Guardrail.Pattern.Regex

/-!
# Plans

The plan of an expression is what its automaton is built from: repetitions that change nothing are
left out, texts that follow one another are joined, alternatives that are single characters or sets
become one set, and what all alternatives begin with is put in front of them.
-/

namespace Guardrail.Pattern

/-- An expression after simplification. The set without members matches nothing. -/
inductive Plan where
  | empty
  /-- One code point after the other. -/
  | literal (text : List Nat)
  | set (ranges : List (Nat × Nat))
  | assert (a : Assertion)
  | times (eager : Bool) (least : Nat) (most? : Option Nat) (body : Plan)
  | capture (body : Plan)
  | seq (parts : List Plan)
  | alt (branches : List Plan)
  deriving Repr, Inhabited

namespace Plan

mutual

/-- The number of characters that a match takes at least, unless a part matches nothing. -/
def least? : Plan → Option Nat
  | .empty => some 0
  | .assert _ => some 0
  | .literal text => some text.length
  | .set ranges => if ranges.isEmpty then none else some 1
  | .times _ least _ body => (least? body).map (least * ·)
  | .capture body => least? body
  | .seq parts => leastOfAll? parts
  | .alt branches => leastOfAny? branches

/-- The number of characters that matches of all parts take at least. -/
def leastOfAll? : List Plan → Option Nat
  | [] => some 0
  | p :: ps => do
    let m ← least? p
    let n ← leastOfAll? ps
    return m + n

/-- The number of characters that a match of any branch takes at least. -/
def leastOfAny? : List Plan → Option Nat
  | [] => none
  | [p] => least? p
  | p :: ps => do
    let m ← least? p
    let n ← leastOfAny? ps
    return min m n

end

mutual

/-- Whether no match takes a character. -/
def isWidthless : Plan → Bool
  | .empty => true
  | .assert _ => true
  | .literal _ => false
  | .set _ => false
  | .times _ _ most? body => most?.isSome && isWidthless body
  | .capture body => isWidthless body
  | .seq parts => areWidthless parts
  | .alt branches => areWidthless branches

/-- `isWidthless` for every part. -/
def areWidthless : List Plan → Bool
  | [] => true
  | p :: ps => isWidthless p && areWidthless ps

end

mutual

/-- Whether an assertion stands in front of every match, or behind every match if the parts of
sequences are taken from the last one on. -/
def begins (a : Assertion) (reversed : Bool) : Plan → Bool
  | .empty => false
  | .assert b => a = b
  | .literal _ => false
  | .set _ => false
  | .times _ least _ body => least ≠ 0 && begins a reversed body
  | .capture body => begins a reversed body
  | .seq parts =>
    if reversed then (endings a parts).1 else beginsAny a parts
  | .alt branches => beginsAll a reversed branches

/-- Whether the assertion stands in front of one of the parts that only widthless ones precede. -/
def beginsAny (a : Assertion) : List Plan → Bool
  | [] => false
  | p :: ps => begins a false p || (isWidthless p && beginsAny a ps)

/-- Whether the assertion stands behind one of the parts that only widthless ones follow, and
whether all parts are widthless. -/
def endings (a : Assertion) : List Plan → Bool × Bool
  | [] => (false, true)
  | p :: ps =>
    let (found, widthless) := endings a ps
    (found || (widthless && begins a true p), widthless && isWidthless p)

/-- Whether the assertion stands at that end of every branch. -/
def beginsAll (a : Assertion) (reversed : Bool) : List Plan → Bool
  | [] => true
  | p :: ps => begins a reversed p && beginsAll a reversed ps

end

mutual

/-- Whether two plans are the same. Two groups that can be referred to never are. -/
def same : Plan → Plan → Bool
  | .empty, .empty => true
  | .literal s, .literal t => s = t
  | .set r, .set s => r = s
  | .assert a, .assert b => a = b
  | .times e l m p, .times f k n q => e = f && l = k && m = n && same p q
  | .seq ps, .seq qs => sameAll ps qs
  | .alt ps, .alt qs => sameAll ps qs
  | _, _ => false

/-- Whether two lists of plans are the same. -/
def sameAll : List Plan → List Plan → Bool
  | [], [] => true
  | p :: ps, q :: qs => same p q && sameAll ps qs
  | _, _ => false

end

mutual

/-- The number of parts in a plan. -/
def size : Plan → Nat
  | .times _ _ _ body => size body + 1
  | .capture body => size body + 1
  | .seq parts => sizes parts + 1
  | .alt branches => sizes branches + 1
  | _ => 1

/-- The number of parts in several plans. -/
def sizes : List Plan → Nat
  | [] => 0
  | p :: ps => size p + sizes ps

end

/-- The plan of a set: one character is a text. Half characters are no members. -/
def ofRanges (ranges : List (Nat × Nat)) : Plan :=
  match Unicode.difference (Unicode.normalize ranges) [(0xd800, 0xdfff)] with
  | [(first, last)] => if first = last then .literal [first] else .set [(first, last)]
  | ranges => .set ranges

/-- The plan of a repetition. What takes no characters is repeated once at most. -/
def repeated (eager : Bool) (least : Nat) (most? : Option Nat) (body : Plan) : Plan :=
  let (least, most?) :=
    if body.isWidthless then (min least 1, some (min (most?.getD 1) 1)) else (least, most?)
  if least = 0 ∧ most? = some 0 then .empty
  else if least = 1 ∧ most? = some 1 then body
  else .times eager least most? body

/-- The parts of a sequence, or the plan alone; the empty one has no parts. -/
def parts : Plan → List Plan
  | .seq parts => parts
  | .empty => []
  | p => [p]

/-- A plan in front of others; two texts become one. -/
def prepend : Plan → List Plan → List Plan
  | .literal s, .literal t :: ps => .literal (s ++ t) :: ps
  | p, ps => p :: ps

/-- The plan of a sequence. -/
def sequence (plans : List Plan) : Plan :=
  match (plans.flatMap parts).foldr prepend [] with
  | [] => .empty
  | [p] => p
  | ps => .seq ps

/-- The branches of a plan, or the plan alone. -/
def branches : Plan → List Plan
  | .alt branches => branches
  | p => [p]

/-- The character that a plan is. -/
def character? : Plan → Option (Nat × Nat)
  | .literal [n] => some (n, n)
  | _ => none

/-- The set that a plan is. -/
def members? : Plan → Option (List (Nat × Nat))
  | .set ranges => some ranges
  | _ => none

/-- The parts of a plan that is a sequence. -/
def sequence? : Plan → Option (List Plan)
  | .seq parts => some parts
  | _ => none

/-- The number of parts at the start that two sequences have in common. -/
def commonLength : List Plan → List Plan → Nat
  | p :: ps, q :: qs => if same p q then commonLength ps qs + 1 else 0
  | _, _ => 0

/-- The plan of alternatives, of which what all of them begin with is put in front. -/
def alternatives : Nat → List Plan → Plan
  | 0, plans => .alt plans
  | fuel + 1, plans =>
    match plans.flatMap branches with
    | [] => .set []
    | [p] => p
    | first :: others =>
      let plans := first :: others
      match plans.mapM character?, plans.mapM members?, plans.mapM sequence? with
      | some characters, _, _ => ofRanges characters
      | none, some sets, _ => ofRanges sets.flatten
      | none, none, some (first :: others) =>
        let common := others.foldl (fun n ps => min n (commonLength first ps)) first.length
        if common = 0 then .alt plans
        else
          let rests := (first :: others).map fun ps => sequence (ps.drop common)
          sequence (first.take common ++ [alternatives fuel rests])
      | _, _, _ => .alt plans

mutual

/-- The plan of an expression. -/
def ofRegex (r : Regex) : Plan :=
  match r with
  | .empty => .empty
  | .chars s => ofRanges s.ranges
  | .assert a => .assert a
  | .seq r s => sequence (ofRegex r :: ofSeq s)
  | .alt r s =>
    let plans := ofRegex r :: ofAlt s
    alternatives (sizes plans) plans
  | .times r least most? eager => repeated eager least most? (ofRegex r)
  | .group true r => .capture (ofRegex r)
  | .group false r => ofRegex r
termination_by (sizeOf r, 0)

/-- The plans of the parts of a sequence. -/
def ofSeq (r : Regex) : List Plan :=
  match r with
  | .seq r s => ofRegex r :: ofSeq s
  | r => [ofRegex r]
termination_by (sizeOf r, 1)

/-- The plans of alternatives. -/
def ofAlt (r : Regex) : List Plan :=
  match r with
  | .alt r s => ofRegex r :: ofAlt s
  | r => [ofRegex r]
termination_by (sizeOf r, 1)

end

end Plan

end Guardrail.Pattern
