import Guardrail.Text.Hexadecimal
import Guardrail.Text.Search
import Guardrail.Yaml.Character

/-!
# Texts in quotes

Between single quotes a quote is written twice and nothing else is special. Between double quotes a
backslash begins an escape, or takes away the end of its line. Lines are folded in both.
-/

namespace Guardrail.Yaml.Quoted

/-- The escapes that stand for one character. -/
def escapes : List (Char × Char) :=
  [('0', '\x00'), ('a', '\x07'), ('b', '\x08'), ('t', '\t'), ('\t', '\t'), ('n', '\n'),
    ('v', '\x0b'), ('f', '\x0c'), ('r', '\r'), ('e', '\x1b'), (' ', ' '), ('"', '"'), ('/', '/'),
    ('\\', '\\'), ('N', '\u0085'), ('_', '\u00a0'), ('L', '\u2028'), ('P', '\u2029')]

/-- The number of hexadecimal digits that an escape takes. -/
def hexCount : List (Char × Nat) :=
  [('x', 2), ('u', 4), ('U', 8)]

/-- The character whose code is written with `count` hexadecimal digits, and the rest. -/
def hexChar? (count : Nat) (cs : List Char) : Option (Char × List Char) := do
  let digits ← (cs.take count).mapM Text.hexDigit?
  let code := digits.foldl (fun n d => 16 * n + d) 0
  if digits.length = count ∧ code.isValidChar then some (Char.ofNat code, cs.drop count) else none

/-- The character that an escape stands for, read behind the backslash, and the rest. -/
def escaped? : List Char → Option (Char × List Char)
  | [] => none
  | c :: rest =>
    match escapes.lookup c with
    | some d => some (d, rest)
    | none => (hexCount.lookup c).bind (hexChar? · rest)

theorem length_escaped?_lt {cs rest : List Char} {c : Char} (h : escaped? cs = some (c, rest)) :
    rest.length < cs.length := by
  cases cs with
  | nil => simp [escaped?] at h
  | cons d tail =>
      simp only [escaped?] at h
      split at h
      · cases h
        simp
      · simp only [Option.bind_eq_some_iff, hexChar?, bind] at h
        obtain ⟨n, -, ds, -, h⟩ := h
        split at h
        · cases h
          simp only [List.length_drop, List.length_cons]
          omega
        · simp at h

/-- Whether a document mark stands at the start of a line, behind a gap. -/
def hitsMark (gap cs : List Char) : Bool :=
  gap.getLast?.all isBreak && atDocumentMark cs

/-- The text up to the closing quote and what follows the quote; `read` holds the characters read
so far, last first. -/
def readFrom? (double : Bool) (read : List Char) (cs : List Char) :
    Option (List Char × List Char) :=
  match cs with
  | [] => none
  | c :: rest =>
    if isGap c then
      have := Text.length_dropWhile_le isGap rest
      let gap := c :: rest.takeWhile isGap
      if hitsMark gap (rest.dropWhile isGap) then none
      else readFrom? double ((foldGap gap).reverse ++ read) (rest.dropWhile isGap)
    else if double then
      if c = '"' then some (read.reverse, rest)
      else if c = '\\' then
        if rest.head?.any isBreak then
          let gap := rest.tail.takeWhile isGap
          have := Text.length_dropWhile_le isGap rest.tail
          have := List.length_tail (l := rest)
          if hitsMark gap (rest.tail.dropWhile isGap) then none
          else
            readFrom? double ((gap.filter isBreak).reverse ++ read)
              (rest.tail.dropWhile isGap)
        else
          match h : escaped? rest with
          | some (e, rest') =>
            have := length_escaped?_lt h
            readFrom? double (e :: read) rest'
          | none => none
      else readFrom? double (c :: read) rest
    else if c = '\'' then
      match rest with
      | '\'' :: rest' => readFrom? double ('\'' :: read) rest'
      | _ => some (read.reverse, rest)
    else readFrom? double (c :: read) rest
termination_by cs.length

/-- The text in double or single quotes whose opening quote has been read, and what follows the
closing quote. -/
def read? (double : Bool) (cs : List Char) : Option (List Char × List Char) :=
  readFrom? double [] cs

end Guardrail.Yaml.Quoted
