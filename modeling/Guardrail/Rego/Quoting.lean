/-!
# Quoted strings and comments on a line

A line of policy text is read with a marker for quoted strings. A double quote opens a string in
which a backslash takes the next character literally; a backquote opens one in which it does not.
A `#` outside strings begins a comment.
-/

namespace Guardrail.Rego

/-- Where a character stands: outside strings, in a string, or behind a backslash in one. -/
inductive Quoting where
  | plain
  | quoted (mark : Char)
  | escaped
  deriving DecidableEq, Repr, Inhabited

/-- Whether a character opens a string. -/
def isQuoteMark (c : Char) : Bool :=
  c = '"' || c = '\x60'

/-- The place behind a character. -/
def Quoting.next (q : Quoting) (c : Char) : Quoting :=
  match q with
  | .plain => if isQuoteMark c then .quoted c else .plain
  | .quoted mark =>
    if c = '\\' ∧ mark = '"' then .escaped else if c = mark then .plain else .quoted mark
  | .escaped => .quoted '"'

/-- The line up to its comment, read from a place on. -/
def uncommented (q : Quoting) : List Char → List Char
  | [] => []
  | c :: cs =>
    if q = .plain ∧ c = '#' then [] else c :: uncommented (q.next c) cs

/-- The line without its comment. -/
def stripComment (line : List Char) : List Char :=
  uncommented .plain line

end Guardrail.Rego
