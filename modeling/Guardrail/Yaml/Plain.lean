import Guardrail.Yaml.Character

/-!
# Plain texts

A text without quotes: words and the gaps between them. It ends at a mark that means something
else, at a comment, and in front of a line that is not indented far enough.
-/

namespace Guardrail.Yaml

/-- Where a plain text stands. -/
structure PlainContext where
  /-- Whether it stands within brackets. -/
  flow : Bool
  /-- The least column of a line that goes on. -/
  indent : Nat
  deriving Repr

/-- A plain text that has been read. -/
structure PlainText where
  text : List Char
  /-- Whether a line ended behind the last word. -/
  crossed : Bool
  rest : List Char
  deriving Repr

namespace PlainContext

/-- Whether a character is one of the marks of lists and mappings in brackets. -/
def isFlowMark (c : Char) : Bool :=
  c = ',' || c = '[' || c = ']' || c = '{' || c = '}'

/-- Whether a text ends in front of `c`, which `cs` follows. -/
def stops (x : PlainContext) (c : Char) (cs : List Char) : Bool :=
  (c = ':' && endsWord cs) || (x.flow && isFlowMark c)

/-- Whether a colon within brackets stands where it is refused. -/
def isMisplacedColon (x : PlainContext) (c : Char) (cs : List Char) : Bool :=
  x.flow && c = ':' && cs.head?.any fun d => isFlowMark d || d = '?'

/-- Whether a text ends at a gap, whose characters stand last first: in front of a comment, of a
document mark, or of a line that is not indented. -/
def stopsBehind (x : PlainContext) (gap : List Char) (cs : List Char) : Bool :=
  let column := (gap.takeWhile (!isBreak ·)).length
  (!gap.isEmpty && cs.head? = some '#') ||
    (gap.any isBreak &&
      ((column = 0 && atDocumentMark cs) || (!x.flow && column < x.indent)))

/-- Whether a tab behind a gap would be indentation. -/
def isTabIndent (x : PlainContext) (gap : List Char) (c : Char) : Bool :=
  c = '\t' && gap.any isBreak && (gap.takeWhile (!isBreak ·)).length < x.indent

/-- A plain text; `read` and `gap` hold the characters read so far and the open gap, last first. -/
def readFrom? (x : PlainContext) (read gap : List Char) : List Char → Option PlainText
  | [] => some ⟨read.reverse, gap.any isBreak, []⟩
  | c :: cs =>
    if isGap c then
      if x.isTabIndent gap c then none else x.readFrom? read (c :: gap) cs
    else if x.stopsBehind gap (c :: cs) then some ⟨read.reverse, gap.any isBreak, c :: cs⟩
    else if x.isMisplacedColon c cs then none
    else if x.stops c cs then some ⟨read.reverse, gap.any isBreak, c :: cs⟩
    else x.readFrom? (c :: (foldGap gap.reverse).reverse ++ read) [] cs

/-- The plain text at the start of `cs`. -/
def read? (x : PlainContext) (cs : List Char) : Option PlainText :=
  x.readFrom? [] [] cs

end PlainContext

end Guardrail.Yaml
