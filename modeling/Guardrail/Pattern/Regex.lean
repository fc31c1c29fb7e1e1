import Guardrail.Pattern.CharSet
import Std.Data.HashSet

/-!
# Regular expressions

The expressions that patterns denote, and whether one occurs in a text. An expression is moved
over the text character by character: `next` lists what is left to be matched after a character,
and `empties` says whether nothing needs to be left. Both look at the characters around the
current position, which is all that an assertion such as a word boundary depends on.
-/

namespace Guardrail.Pattern

/-- A condition on the place between two characters. -/
inductive Assertion where
  | textStart
  | textEnd
  | lineStart
  | lineEnd
  /-- As `lineStart`, a carriage return ending lines too. -/
  | lineStartReturn
  /-- As `lineEnd`, a carriage return ending lines too. -/
  | lineEndReturn
  | boundary (unicode : Bool)
  | noBoundary (unicode : Bool)
  | wordStart (unicode : Bool)
  | wordEnd (unicode : Bool)
  | wordStartHalf (unicode : Bool)
  | wordEndHalf (unicode : Bool)
  deriving DecidableEq, Repr, Hashable

/-- The characters on both sides of a place in a text. -/
structure Place where
  before? : Option Char
  after? : Option Char
  deriving DecidableEq, Repr

/-- Whether a character counts as part of a word. -/
def isWordChar (unicode : Bool) (c? : Option Char) : Bool :=
  match c? with
  | some c => if unicode then Unicode.inRanges Unicode.word c.toNat else c.isAlphanum || c = '_'
  | none => false

/-- Whether an assertion holds at a place. -/
def Assertion.holds (p : Place) : Assertion → Bool
  | .textStart => p.before?.isNone
  | .textEnd => p.after?.isNone
  | .lineStart => p.before?.isNone || p.before? = some '\n'
  | .lineEnd => p.after?.isNone || p.after? = some '\n'
  | .lineStartReturn =>
    p.before?.isNone || p.before? = some '\n' || (p.before? = some '\r' && p.after? ≠ some '\n')
  | .lineEndReturn =>
    p.after?.isNone || p.after? = some '\r' || (p.after? = some '\n' && p.before? ≠ some '\r')
  | .boundary u => isWordChar u p.before? != isWordChar u p.after?
  | .noBoundary u => isWordChar u p.before? == isWordChar u p.after?
  | .wordStart u => !isWordChar u p.before? && isWordChar u p.after?
  | .wordEnd u => isWordChar u p.before? && !isWordChar u p.after?
  | .wordStartHalf u => !isWordChar u p.before?
  | .wordEndHalf u => !isWordChar u p.after?

/-- A regular expression. -/
inductive Regex where
  | empty
  | chars (s : CharSet)
  | assert (a : Assertion)
  | seq (r s : Regex)
  | alt (r s : Regex)
  /-- A repetition; which number of turns it prefers makes no difference to what occurs. -/
  | times (r : Regex) (least : Nat) (most? : Option Nat) (eager : Bool)
  /-- A group, and whether it can be referred to. -/
  | group (captures : Bool) (r : Regex)
  deriving DecidableEq, Repr, Hashable

namespace Regex

/-- Whether an expression matches the empty text at a place. -/
def empties (p : Place) : Regex → Bool
  | .empty => true
  | .chars _ => false
  | .assert a => a.holds p
  | .seq r s => r.empties p && s.empties p
  | .alt r s => r.empties p || s.empties p
  | .times r least _ _ => least = 0 || r.empties p
  | .group _ r => r.empties p

/-- What is to be matched first, followed by what is to be matched then. -/
def andThen (r s : Regex) : Regex :=
  match r with
  | .empty => s
  | r => .seq r s

/-- What may be left to match after the character `c` behind a place. A repetition whose body
matches nothing here may skip any number of its turns. -/
def next (p : Place) (c : Char) : Regex → List Regex
  | .empty => []
  | .chars s => if s.has c.toNat then [.empty] else []
  | .assert _ => []
  | .seq r s =>
    (next p c r).map (·.andThen s) ++ (if r.empties p then next p c s else [])
  | .alt r s => next p c r ++ next p c s
  | .times r least most? eager =>
    if most? = some 0 then []
    else
      let least := if r.empties p then 0 else least - 1
      (next p c r).map (·.andThen (.times r least (most?.map (· - 1)) eager))
  | .group _ r => next p c r

/-- Expressions without repetitions. -/
def distinct (rs : List Regex) : List Regex :=
  (rs.foldl (fun (seen, kept) r =>
    if seen.contains r then (seen, kept) else (seen.insert r, r :: kept))
    (({} : Std.HashSet Regex), [])).2

/-- Whether one of the expressions in progress, or the expression begun anew, matches. -/
def search (r : Regex) (before? : Option Char) (open? : List Regex) : List Char → Bool
  | [] => (r :: open?).any (·.empties ⟨before?, none⟩)
  | c :: cs =>
    let p : Place := ⟨before?, some c⟩
    (r :: open?).any (·.empties p) ||
      search r (some c) (distinct ((r :: open?).flatMap (·.next p c))) cs

/-- Whether an expression matches some part of a text. -/
def occursIn (r : Regex) (text : String) : Bool :=
  r.search none [] text.toList

end Regex

end Guardrail.Pattern
