import Guardrail.Rego.Block
import Guardrail.Rego.Head
import Guardrail.Rego.Quoting
import Guardrail.Text.Lines

/-!
# Scanning policy texts

A policy text is read line by line. The scanner knows whether it is outside all rules, in the body
of one, or within brackets inside a body, and how deep. A rule is complete when its closing brace
is met outside quoted strings; a text may end in the middle of a rule, which is then dropped.
-/

namespace Guardrail.Rego

/-- Where the scanner is. -/
inductive Mode where
  | outside
  | body
  | nested
  deriving DecidableEq, Repr, Inhabited

/-- The state of the scanner between two lines. -/
structure Scanner where
  package : String
  mode : Mode
  /-- The number of open braces, brackets and parentheses, the rule's own brace included. -/
  depth : Nat
  draft? : Option Draft
  /-- A head on a line of its own, whose brace is expected on the next line. -/
  pending? : Option Head
  /-- The characters of the open statement, last first. -/
  statement : List Char
  blocks : List Block
  deriving Repr, Inhabited

namespace Scanner

/-- The state in front of a text. -/
def start : Scanner :=
  { package := "", mode := .outside, depth := 0, draft? := none, pending? := none,
    statement := [], blocks := [] }

/-- The scanner with one more character in its statement. -/
def push (s : Scanner) (c : Char) : Scanner :=
  { s with statement := c :: s.statement }

/-- The statement is complete. -/
def flush (s : Scanner) : Scanner :=
  let text := Text.trim s.statement.reverse
  { s with
    statement := []
    draft? := if text.isEmpty then s.draft? else s.draft?.map (·.absorb text) }

/-- The body of a rule begins. -/
def openRule (s : Scanner) (h : Head) : Scanner :=
  { s with
    mode := .body
    depth := 1
    draft? := some (Draft.new h.name h.binding?)
    pending? := none
    statement := [] }

/-- The body of a rule ends. -/
def closeRule (s : Scanner) : Scanner :=
  let s := s.flush
  { s with
    mode := .outside
    depth := 0
    draft? := none
    blocks := s.blocks ++ (s.draft?.map (·.toBlock s.package)).toList }

/-- An opening bracket in a body. -/
def openBracket (s : Scanner) (c : Char) : Scanner :=
  { s with mode := .nested, depth := s.depth + 1, statement := c :: s.statement }

/-- A closing bracket in a body that does not end the rule. One that nothing opened changes
nothing. -/
def closeBracket (s : Scanner) (c : Char) : Scanner :=
  let depth := if 1 < s.depth then s.depth - 1 else s.depth
  { s with
    mode := if depth = 1 then .body else s.mode
    depth := depth
    statement := c :: s.statement }

/-- The end of a line in a body: a statement ends unless brackets are open. -/
def endLine (s : Scanner) : Scanner :=
  if s.mode = .body then s.flush else s.push ' '

/-- A character of a body outside quoted strings that does not end the rule. -/
def plain (s : Scanner) (c : Char) : Scanner :=
  if c = '{' ∨ c = '[' ∨ c = '(' then s.openBracket c
  else if c = '}' ∨ c = ']' ∨ c = ')' then s.closeBracket c
  else if c = ';' ∧ s.depth = 1 then s.flush
  else s.push c

/-- What a line outside rules begins: the body of a rule with the text behind its brace, or nothing.
The scanner takes note of packages and of heads that wait for their brace. -/
def declare (s : Scanner) (line : List Char) : Scanner × Option (Head × List Char) :=
  match line, s.pending? with
  | [], _ => (s, none)
  | '{' :: rest, some h => ({ s with pending? := none }, some (h, rest))
  | line, _ =>
    let s := { s with pending? := none }
    match packageName? line with
    | some name => ({ s with package := name }, none)
    | none =>
      match head? line with
      | some (h, some rest) => (s, some (h, rest))
      | some (h, none) => ({ s with pending? := some h }, none)
      | none => (s, none)

end Scanner

namespace Scanner

theorem length_lt_of_declare {s s' : Scanner} {line rest : List Char} {h : Head}
    (hd : s.declare line = (s', some (h, rest))) : rest.length < line.length := by
  unfold declare at hd
  split at hd
  · simp at hd
  · simp only [Prod.mk.injEq, Option.some.injEq] at hd
    simp [← hd.2.2]
  · dsimp only at hd
    split at hd
    · simp at hd
    · split at hd
      · rename_i heq
        simp only [Prod.mk.injEq, Option.some.injEq] at hd
        exact hd.2.2 ▸ length_lt_of_head? heq
      · simp at hd
      · simp at hd

mutual

/-- A line, or the end of one, outside rules. -/
def outside (s : Scanner) (line : List Char) : Scanner :=
  match h : s.declare (Text.trim line) with
  | (s, none) => s
  | (s, some (head, rest)) =>
    have := length_lt_of_declare h
    have := Text.length_trim_le line
    (s.openRule head).body .plain rest
termination_by line.length

/-- A line, or the end of one, in the body of a rule. -/
def body (s : Scanner) (q : Quoting) (line : List Char) : Scanner :=
  match line with
  | [] => s.endLine
  | c :: rest =>
    if q = .plain then
      if c = '}' ∧ s.depth ≤ 1 then s.closeRule.outside rest
      else (s.plain c).body (q.next c) rest
    else (s.push c).body (q.next c) rest
termination_by line.length

end

/-- A line of the text. -/
def feed (s : Scanner) (line : List Char) : Scanner :=
  let line := stripComment line
  if s.mode = .outside then s.outside line else s.body .plain line

end Scanner

/-- The complete rules of a policy text. -/
def blocks (text : String) : List Block :=
  ((Text.lines text.toList).foldl Scanner.feed Scanner.start).blocks

end Guardrail.Rego
