/-!
# Characters of YAML

Which characters a YAML text may hold, which of them end a line or stand between words, and what a
gap between two words counts for when the words are joined.
-/

namespace Guardrail.Yaml

/-- Whether a text may hold a character. -/
def isReadable (c : Char) : Bool :=
  c = '\t' || c = '\n' || c = '\r' || (' ' ≤ c && c ≤ '~') || c = '\u0085' ||
    ('\u00a0' ≤ c && c ≤ '\ufffd') || '\uffff' < c

/-- The text with one line feed for each carriage return, line feed, pair of the two, and next
line. -/
def unifyBreaks : List Char → List Char
  | '\r' :: '\n' :: cs => '\n' :: unifyBreaks cs
  | c :: cs => (if c = '\r' ∨ c = '\u0085' then '\n' else c) :: unifyBreaks cs
  | [] => []

/-- Whether a character ends a line of a text with unified breaks. -/
def isBreak (c : Char) : Bool :=
  c = '\n' || c = '\u2028' || c = '\u2029'

/-- A space or a tab. -/
def isSpace (c : Char) : Bool :=
  c = ' ' || c = '\t'

/-- Whether a character stands between words. -/
def isGap (c : Char) : Bool :=
  isSpace c || isBreak c

/-- Whether a text begins behind a word. -/
def endsWord : List Char → Bool
  | [] => true
  | c :: _ => isGap c

/-- Whether a text begins with three of the given character on their own. -/
def atMark (mark : Char) : List Char → Bool
  | a :: b :: c :: rest => a = mark && b = mark && c = mark && endsWord rest
  | _ => false

/-- Whether a line begins or ends a document. -/
def atDocumentMark (cs : List Char) : Bool :=
  atMark '-' cs || atMark '.' cs

/-- What a gap between two words counts for: itself if no line ends in it. A single line feed
counts for a space, and in front of further breaks it counts for nothing. -/
def foldGap (gap : List Char) : List Char :=
  match gap.filter isBreak with
  | [] => gap
  | ['\n'] => [' ']
  | '\n' :: breaks => breaks
  | breaks => breaks

/-- The rest of a line, up to its break. -/
def skipLine (cs : List Char) : List Char :=
  cs.dropWhile (!isBreak ·)

theorem length_skipLine_le (cs : List Char) : (skipLine cs).length ≤ cs.length :=
  (List.dropWhile_sublist _).length_le

/-- The text behind the end of a line on which at most a comment stands. -/
def lineEnd? (cs : List Char) : Option (List Char) :=
  match cs.dropWhile isSpace with
  | [] => some []
  | c :: rest =>
    if c = '#' then some ((skipLine rest).drop 1)
    else if isBreak c then some rest
    else none

/-- The characters of names of anchors, tags and directives. -/
def isNameChar (c : Char) : Bool :=
  c.isAlphanum || c = '_' || c = '-'

end Guardrail.Yaml
