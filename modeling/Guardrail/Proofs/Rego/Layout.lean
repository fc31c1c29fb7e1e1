import Guardrail.Proofs.Rego.Names
import Guardrail.Rego.Scanner

/-!
# Layouts of policy texts

A rule can be written in several ways: its head names the variable of the message in brackets or
behind `contains`, an `if` may follow, the brace stands on the line of the head or on the next one,
and the statements are separated by semicolons or stand on lines of their own. A layout is one of
these ways, and every layout stands for a block.
-/

namespace Guardrail.Rego

/-! ## Parts of a layout -/

/-- Whether the strings and brackets of a text are closed at its end, read from a place on and
with so many brackets open before. Outside strings the text has no comment, and outside brackets no
semicolon. Brackets are counted whatever their kind, so a text whose brackets are well nested is
closed. -/
def isClosed (q : Quoting) (depth : Nat) : List Char → Bool
  | [] => q = .plain && depth = 0
  | c :: cs =>
    if q ≠ .plain then isClosed (q.next c) depth cs
    else if c = '{' ∨ c = '[' ∨ c = '(' then isClosed .plain (depth + 1) cs
    else if c = '}' ∨ c = ']' ∨ c = ')' then 0 < depth && isClosed .plain (depth - 1) cs
    else if c = '#' ∨ c = ';' ∧ depth = 0 then false
    else isClosed (q.next c) depth cs

/-- What the first character of a closed text does outside strings. -/
theorem isClosed_cons {depth : Nat} {c : Char} {cs : List Char}
    (h : isClosed .plain depth (c :: cs) = true) :
    c ≠ '#' ∧ ∃ depth', isClosed (Quoting.plain.next c) depth' cs = true ∧
      ((c = '{' ∨ c = '[' ∨ c = '(') ∧ depth' = depth + 1 ∨
        (c = '}' ∨ c = ']' ∨ c = ')') ∧ depth = depth' + 1 ∨
        ¬(c = '{' ∨ c = '[' ∨ c = '(') ∧ ¬(c = '}' ∨ c = ']' ∨ c = ')') ∧
          ¬(c = ';' ∧ depth = 0) ∧ depth' = depth) := by
  rw [isClosed, if_neg (by simp)] at h
  by_cases hopen : c = '{' ∨ c = '[' ∨ c = '('
  · rw [if_pos hopen] at h
    rcases hopen with rfl | rfl | rfl <;> exact ⟨by decide, depth + 1, h, .inl ⟨by simp, rfl⟩⟩
  · rw [if_neg hopen] at h
    by_cases hclose : c = '}' ∨ c = ']' ∨ c = ')'
    · rw [if_pos hclose, Bool.and_eq_true, decide_eq_true_eq] at h
      obtain ⟨depth, rfl⟩ := Nat.exists_eq_succ_of_ne_zero (Nat.ne_of_gt h.1)
      rcases hclose with rfl | rfl | rfl <;>
        exact ⟨by decide, depth, h.2, .inr (.inl ⟨by simp, rfl⟩)⟩
    · rw [if_neg hclose] at h
      split at h
      · exact absurd h Bool.false_ne_true
      · rename_i hsep
        rw [not_or] at hsep
        exact ⟨hsep.1, depth, h, .inr (.inr ⟨hopen, hclose, hsep.2, rfl⟩)⟩

structure Margin where
  chars : List Char
  forall_mem : ∀ c ∈ chars, c = ' ' ∨ c = '\t'

theorem Margin.isBlank_of_mem (m : Margin) {c : Char} (h : c ∈ m.chars) :
    Text.isBlank c = true := by
  rcases m.forall_mem c h with rfl | rfl <;> decide

/-- A statement as it can stand in a layout. -/
structure StatementText where
  chars : List Char
  ne_nil : chars ≠ []
  trim_eq : Text.trim chars = chars
  no_break : '\n' ∉ chars
  closed : isClosed .plain 0 chars = true

/-- How a head names the variable of its message. -/
inductive HeadBinding where
  | absent
  | bracketed (v : Name)
  | contained (v : Name)

namespace HeadBinding

def name? : HeadBinding → Option (List Char)
  | absent => none
  | bracketed v | contained v => some v.chars

def text : HeadBinding → List Char
  | absent => []
  | bracketed v => '[' :: v.chars ++ [']']
  | contained v => ' ' :: ("contains".toList ++ ' ' :: v.chars)

end HeadBinding

def ifText (hasIf : Bool) : List Char :=
  if hasIf then [' ', 'i', 'f'] else []

/-! ## Rules -/

/-- The statements on one line, each behind a margin. -/
abbrev Row := List (Margin × StatementText)

/-- The statements of a row, separated by semicolons. -/
def rowText : Row → List Char
  | [] => []
  | [(m, s)] => m.chars ++ s.chars
  | (m, s) :: row => m.chars ++ s.chars ++ ';' :: rowText row

theorem rowText_cons_cons (m : Margin) (s : StatementText) (next : Margin × StatementText)
    (row : Row) :
    rowText ((m, s) :: next :: row) = m.chars ++ s.chars ++ ';' :: rowText (next :: row) := rfl

/-- The lines of a body whose first row stands behind `front`; the closing brace is on the line of
the last row. -/
def bodyLines (front : List Char) (beforeClose : Margin) : Row → List Row → List (List Char)
  | row, [] => [front ++ (rowText row ++ (beforeClose.chars ++ ['}']))]
  | row, next :: rows => (front ++ rowText row) :: bodyLines [] beforeClose next rows

/-- A rule in a layout. The first row of its body stands on the line of the opening brace, and the
last one on the line of the closing brace; either may be empty. -/
structure RuleText where
  head : Name
  head_ne : head.chars ≠ "package".toList
  binding : HeadBinding
  hasIf : Bool
  braceBelow : Bool
  blankLines : Nat
  beforeHead : Margin
  beforeBrace : Margin
  beforeClose : Margin
  firstRow : Row
  moreRows : List Row

namespace RuleText

/-- The head without its brace. -/
def headText (r : RuleText) : List Char :=
  r.head.chars ++ (r.binding.text ++ ifText r.hasIf)

def braceText (r : RuleText) : List Char :=
  r.beforeBrace.chars ++ ['{']

def lines (r : RuleText) : List (List Char) :=
  List.replicate r.blankLines [] ++
    if r.braceBelow then
      (r.beforeHead.chars ++ r.headText) ::
        bodyLines r.braceText r.beforeClose r.firstRow r.moreRows
    else
      bodyLines (r.beforeHead.chars ++ (r.headText ++ r.braceText)) r.beforeClose r.firstRow
        r.moreRows

def statements (r : RuleText) : List StatementText :=
  (r.firstRow :: r.moreRows).flatten.map Prod.snd

end RuleText

/-! ## What a rule stands for -/

/-- What a statement contributes to its block. -/
inductive Part where
  | message (text : String)
  | condition (c : Condition)
  | unparsed (text : String)
  deriving Repr, Inhabited

namespace Part

/-- The part of a statement: it is the message if it assigns one to the variable, else a condition
if it is understood as one, else it is kept as it is. -/
def ofStatement (variableName statement : List Char) : Part :=
  match Rego.message? variableName statement with
  | some m => message m
  | none =>
    match Rego.condition? statement with
    | some c => condition c
    | none => unparsed (String.ofList statement)

def message? : Part → Option String
  | message m => some m
  | _ => none

def condition? : Part → Option Condition
  | condition c => some c
  | _ => none

def unparsed? : Part → Option String
  | unparsed s => some s
  | _ => none

end Part

namespace RuleText

def parts (r : RuleText) : List Part :=
  r.statements.map fun s => Part.ofStatement (r.binding.name?.getD "msg".toList) s.chars

/-- The block that the rule stands for in a package; the last message is the block's. -/
def block (r : RuleText) (package : String) : Block :=
  { package
    head := String.ofList r.head.chars
    conditions := r.parts.filterMap Part.condition?
    message? := (r.parts.filterMap Part.message?).getLast?
    unparsed := r.parts.filterMap Part.unparsed? }

end RuleText

/-! ## Policies -/

/-- A policy in a layout: a package and rules. -/
structure PolicyText where
  package : List Char
  dotted : (dottedName package).all isName = true
  rules : List RuleText
  endsWithBreak : Bool

namespace PolicyText

def lines (t : PolicyText) : List (List Char) :=
  ("package".toList ++ ' ' :: t.package) :: t.rules.flatMap RuleText.lines

def text (t : PolicyText) : String :=
  String.ofList (['\n'].intercalate t.lines ++ if t.endsWithBreak then ['\n'] else [])

end PolicyText

end Guardrail.Rego
