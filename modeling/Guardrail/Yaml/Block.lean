import Guardrail.Text.Search
import Guardrail.Yaml.Character

/-!
# Block texts

A text of indented lines under a header. The header says whether lines are folded, what is kept of
the breaks at the end, and how far the lines are indented if their own indentation does not show
it.
-/

namespace Guardrail.Yaml.Block

/-- What is kept of the breaks at the end of a text. -/
inductive Chomping where
  | strip
  | clip
  | keep
  deriving DecidableEq, Repr

/-- The header of a block text. -/
structure Header where
  chomping : Chomping
  /-- How much further than their surroundings the lines are indented. -/
  increment? : Option Nat
  deriving Repr

namespace Header

/-- The chomping that a sign asks for. -/
def chomping? (c : Char) : Option Chomping :=
  if c = '+' then some .keep else if c = '-' then some .strip else none

/-- The sign at the start of a text, if there is one, and the rest. -/
def takeChomping : List Char → Option Chomping × List Char
  | [] => (none, [])
  | c :: cs =>
    match chomping? c with
    | some chomping => (some chomping, cs)
    | none => (none, c :: cs)

/-- The digit at the start of a text, if there is one, and the rest; zero is refused. -/
def takeIncrement? : List Char → Option (Option Nat × List Char)
  | [] => some (none, [])
  | c :: cs =>
    if c = '0' then none
    else if c.isDigit then some (some (c.toNat - '0'.toNat), cs)
    else some (none, c :: cs)

/-- The header at the start of a text, and the text behind the header's line. The sign may stand
on either side of the digit. -/
def read? (cs : List Char) : Option (Header × List Char) := do
  let (early?, cs) := takeChomping cs
  let (increment?, cs) ← takeIncrement? cs
  let (late?, cs) := if early?.isNone && increment?.isSome then takeChomping cs else (none, cs)
  let rest ← lineEnd? cs
  return (⟨(early?.or late?).getD .clip, increment?⟩, rest)

end Header

/-- The indentation that the lines themselves show: that of the first one with words, or of a
longer empty line in front of it. A tab is refused. -/
def shownIndent? (cs : List Char) : Option Nat :=
  let spaces := (cs.takeWhile (· = ' ')).length
  match h : cs.dropWhile (· = ' ') with
  | [] => some spaces
  | c :: rest =>
    have : rest.length < cs.length := by
      have := Text.length_dropWhile_le (· = ' ') cs
      simp only [h, List.length_cons] at this
      omega
    if c = '\t' then none
    else if isBreak c then (shownIndent? rest).map (max spaces ·)
    else some spaces
termination_by cs.length

/-- A line without its indentation, and its break if it has one. An empty line has no text. -/
structure Line where
  text : List Char
  ending : List Char
  deriving Repr

/-- How many of at most `indent` spaces a text begins with, and the rest. -/
def spanIndent : Nat → List Char → Nat × List Char
  | n + 1, ' ' :: cs => ((spanIndent n cs).1 + 1, (spanIndent n cs).2)
  | _, cs => (0, cs)

theorem length_spanIndent_le (indent : Nat) (cs : List Char) :
    (spanIndent indent cs).2.length ≤ cs.length := by
  fun_induction spanIndent indent cs with
  | case1 n cs ih =>
      simp only [List.length_cons]
      omega
  | case2 => simp

/-- The lines that are indented by `indent` or empty, and the text behind them. -/
def lines? (indent : Nat) (cs : List Char) : Option (List Line × List Char) :=
  match h : spanIndent indent cs with
  | (_, []) => some ([], [])
  | (n, c :: rest) =>
    have hlen : rest.length < cs.length := by
      have := length_spanIndent_le indent cs
      simp only [h, List.length_cons] at this
      omega
    if isBreak c then (lines? indent rest).map fun (ls, end_) => (⟨[], [c]⟩ :: ls, end_)
    else if n < indent then if c = '\t' then none else some ([], c :: rest)
    else
      have := length_skipLine_le rest
      have := List.length_drop (i := 1) (l := skipLine rest)
      let line : Line := ⟨c :: rest.takeWhile (!isBreak ·), (skipLine rest).take 1⟩
      (lines? indent ((skipLine rest).drop 1)).map fun (ls, end_) => (line :: ls, end_)
termination_by cs.length

/-- The lines read so far, joined. -/
structure Joint where
  text : List Char
  /-- The break of the last line with words. -/
  ending : List Char
  /-- The breaks of the empty lines behind it. -/
  breaks : List Char
  /-- Whether it began with a blank. -/
  indented : Bool
  deriving Repr

namespace Joint

/-- No line. -/
def empty : Joint := ⟨[], [], [], false⟩

/-- One more line. Where lines are folded, a line feed between two lines that begin without a blank
counts for a space, and in front of empty lines for nothing. -/
def add (folded : Bool) (j : Joint) (l : Line) : Joint :=
  if l.text.isEmpty then { j with breaks := j.breaks ++ l.ending }
  else
    let indented := l.text.head?.any isSpace
    let seam :=
      if folded ∧ j.ending = ['\n'] ∧ !j.indented ∧ !indented then
        if j.breaks.isEmpty then [' '] else []
      else j.ending
    { text := j.text ++ seam ++ j.breaks ++ l.text, ending := l.ending, breaks := [], indented }

/-- The text of the lines. -/
def finish (chomping : Chomping) (j : Joint) : List Char :=
  match chomping with
  | .strip => j.text
  | .clip => j.text ++ j.ending
  | .keep => j.text ++ j.ending ++ j.breaks

end Joint

/-- The block text behind its mark, and what follows it; the surroundings are indented by less
than `floor`. -/
def read? (folded : Bool) (floor : Nat) (cs : List Char) : Option (List Char × List Char) := do
  let (header, cs) ← Header.read? cs
  let indent ←
    match header.increment? with
    | some n => some (floor - 1 + n)
    | none => (shownIndent? cs).map fun n => max n (max floor 1)
  let (lines, rest) ← lines? indent cs
  return ((lines.foldl (Joint.add folded) .empty).finish header.chomping, rest)

end Guardrail.Yaml.Block
