import Guardrail.Json.Token
import Guardrail.Text.Blank
import Guardrail.Unicode.Property
import Guardrail.Condition.Basic

/-!
# Expressions in policy texts

Names, paths into the input, literals and comparison signs, each read from the start of a text
together with the text that follows.
-/

namespace Guardrail.Rego

/-- Whether a character may begin a name. -/
def isNameStart (c : Char) : Bool :=
  c.isAlpha || c = '_'

/-- Whether a character may stand in a name. -/
def isNameChar (c : Char) : Bool :=
  c.isAlphanum || c = '_'

/-- A name. -/
def name? : List Char → Option (List Char × List Char)
  | [] => none
  | c :: cs =>
    if isNameStart c then some (c :: cs.takeWhile isNameChar, cs.dropWhile isNameChar) else none

/-- The text behind its blanks. -/
def skipBlanks (cs : List Char) : List Char :=
  cs.dropWhile Text.isBlank

theorem length_skipBlanks_le (cs : List Char) : (skipBlanks cs).length ≤ cs.length :=
  (List.dropWhile_sublist _).length_le

theorem length_lt_of_name? {cs name rest : List Char} (h : name? cs = some (name, rest)) :
    rest.length < cs.length := by
  cases cs with
  | nil => simp [name?] at h
  | cons c cs =>
      simp only [name?] at h
      split at h
      · simp only [Option.some.injEq, Prod.mk.injEq] at h
        have := (List.dropWhile_sublist isNameChar (l := cs)).length_le
        simp only [← h.2, List.length_cons]
        omega
      · simp at h

/-- A JSON string; the text begins with its quote. -/
def string? : List Char → Option (String × List Char)
  | '"' :: cs => do
    let (s?, rest) ← Json.Token.quoted? (some []) cs
    s?.map fun s => (String.ofList s, rest)
  | _ => none

/-- The digits of an index. Those of ASCII need no table. -/
def isIndexChar (c : Char) : Bool :=
  c.isDigit || (0x80 ≤ c.toNat && Unicode.inRanges Unicode.decimal c.toNat)

/-- A segment of a path: a name behind a dot, or a JSON string or an index in brackets. -/
def segment? : List Char → Option (String × List Char)
  | '.' :: c :: cs =>
    if isNameStart c then
      some (String.ofList (c :: cs.takeWhile fun c => isNameChar c || c = '-'),
        cs.dropWhile fun c => isNameChar c || c = '-')
    else none
  | '[' :: '"' :: cs =>
    match string? ('"' :: cs) with
    | some (s, ']' :: rest) => some (s, rest)
    | _ => none
  | '[' :: cs =>
    match cs.takeWhile isIndexChar, cs.dropWhile isIndexChar with
    | c :: digits, ']' :: rest => some (String.ofList (c :: digits), rest)
    | _, _ => none
  | _ => none

/-- As many segments as there are. -/
def segments (cs : List Char) : List String × List Char :=
  match segment? cs with
  | none => ([], cs)
  | some (s, rest) =>
    if rest.length < cs.length then
      let (more, rest) := segments rest
      (s :: more, rest)
    else ([s], rest)
termination_by cs.length

/-- The field that the segments of a path name. The segment `changeRequest` in front of others is
left out, so that a policy reads the same here and where the input is wrapped. -/
def fieldName : List String → String
  | "changeRequest" :: s :: rest => ".".intercalate (s :: rest)
  | path => ".".intercalate path

/-- The field of a path into the input. -/
def path? (cs : List Char) : Option (String × List Char) := do
  let rest ← Text.after? ['i', 'n', 'p', 'u', 't'] cs
  match segments rest with
  | ([], _) => none
  | (path, rest) => some (fieldName path, rest)

/-- A literal: a JSON string, number, truth value or `null`. -/
def literal? (cs : List Char) : Option (Json × List Char) :=
  match string? cs with
  | some (s, rest) => some (.text s, rest)
  | none =>
    (Json.Token.word? (cs.takeWhile Json.Token.isWordChar)).join.map fun s =>
      (s.toJson, cs.dropWhile Json.Token.isWordChar)

/-- A comparison sign. -/
def operator? : List Char → Option (SizeOrder × List Char)
  | '=' :: '=' :: rest => some (.equal, rest)
  | '!' :: '=' :: rest => some (.unequal, rest)
  | '>' :: '=' :: rest => some (.atLeast, rest)
  | '<' :: '=' :: rest => some (.atMost, rest)
  | '>' :: rest => some (.above, rest)
  | '<' :: rest => some (.below, rest)
  | _ => none

end Guardrail.Rego
