import Guardrail.Document.Basic
import Guardrail.Json.Numeral
import Guardrail.Text.Hexadecimal
import Guardrail.Text.Search

/-!
# JSON tokens

A JSON text is cut into brackets, separators, numbers, words and texts in quotes. A number that is
too large and a text with half a character are tokens that cannot be read.
-/

namespace Guardrail.Json

/-- A piece of a JSON text. -/
inductive Token where
  | openList
  | closeList
  | openMap
  | closeMap
  | comma
  | colon
  | text (s? : Option String)
  /-- A number or one of the three words. -/
  | word (s? : Option Scalar)
  deriving DecidableEq, Repr

namespace Token

/-- The four characters that may stand between tokens. -/
def isSpace (c : Char) : Bool :=
  c = ' ' || c = '\t' || c = '\n' || c = '\r'

/-- The number written with four hexadecimal digits, and the rest. -/
def hexQuad? : List Char → Option (Nat × List Char)
  | a :: b :: c :: d :: rest => do
    let a ← Text.hexDigit? a
    let b ← Text.hexDigit? b
    let c ← Text.hexDigit? c
    let d ← Text.hexDigit? d
    return (((a * 16 + b) * 16 + c) * 16 + d, rest)
  | _ => none

/-- The character that a pair of code units beyond the basic plane stands for. -/
def pairChar (high low : Nat) : Char :=
  Char.ofNat (0x10000 + (high - 0xd800) * 0x400 + (low - 0xdc00))

/-- The character of an escape that starts with `u`: one code unit, or two that form a pair. A unit
that is half of a pair stands for no character. -/
def unicodeEscape? (cs : List Char) : Option (Option Char × List Char) := do
  let (unit, rest) ← hexQuad? cs
  if unit < 0xd800 ∨ 0xdfff < unit then some (some (Char.ofNat unit), rest)
  else
    match (Text.after? ['\\', 'u'] rest).bind hexQuad? with
    | some (low, rest') =>
      if unit ≤ 0xdbff ∧ 0xdc00 ≤ low ∧ low ≤ 0xdfff then some (some (pairChar unit low), rest')
      else some (none, rest)
    | none => some (none, rest)

/-- The character that an escape stands for, read behind the backslash, and the rest. -/
def escaped? : List Char → Option (Option Char × List Char)
  | [] => none
  | c :: rest =>
    if c = '"' ∨ c = '\\' ∨ c = '/' then some (some c, rest)
    else if c = 'b' then some (some '\x08', rest)
    else if c = 'f' then some (some '\x0c', rest)
    else if c = 'n' then some (some '\n', rest)
    else if c = 'r' then some (some '\r', rest)
    else if c = 't' then some (some '\t', rest)
    else if c = 'u' then unicodeEscape? rest
    else none

theorem hexQuad?_length {cs rest : List Char} {n : Nat} (h : hexQuad? cs = some (n, rest)) :
    rest.length < cs.length := by
  match cs with
  | a :: b :: c :: d :: tail =>
      simp only [hexQuad?, bind, Option.bind_eq_some_iff] at h
      obtain ⟨_, _, _, _, _, _, _, _, h⟩ := h
      cases h
      simp only [List.length_cons]
      omega

theorem unicodeEscape?_length {cs rest : List Char} {c? : Option Char}
    (h : unicodeEscape? cs = some (c?, rest)) : rest.length < cs.length := by
  simp only [unicodeEscape?, bind, Option.bind_eq_some_iff] at h
  obtain ⟨⟨u, r⟩, hu, h⟩ := h
  have hr := hexQuad?_length hu
  dsimp only at h
  split at h
  · cases h
    exact hr
  · split at h
    · rename_i low r' hl
      obtain ⟨r'', ha, hq⟩ := Option.bind_eq_some_iff.1 hl
      have hq := hexQuad?_length hq
      rw [Text.after?_eq_some_iff] at ha
      subst ha
      simp only [List.length_append, List.length_cons] at hr
      split at h <;> cases h
      · omega
      · simp only [List.length_append, List.length_cons]
        omega
    · cases h
      exact hr

theorem escaped?_length {cs rest : List Char} {c? : Option Char}
    (h : escaped? cs = some (c?, rest)) : rest.length < cs.length := by
  cases cs with
  | nil => simp [escaped?] at h
  | cons d tail =>
      have step : rest = tail ∨ unicodeEscape? tail = some (c?, rest) := by
        unfold escaped? at h
        grind
      rcases step with rfl | h
      · simp
      · have := unicodeEscape?_length h
        simp only [List.length_cons]
        omega

/-- The text up to the closing quote, its escapes resolved, and what follows the quote; `read?`
holds the characters read so far, last first, and nothing behind half a character. -/
def quoted? (read? : Option (List Char)) (cs : List Char) :
    Option (Option (List Char) × List Char) :=
  match cs with
  | [] => none
  | c :: rest =>
    if c = '"' then some (read?.map List.reverse, rest)
    else if c = '\\' then
      match h : escaped? rest with
      | some (e?, rest') =>
        have := escaped?_length h
        quoted? (read?.bind fun read => e?.map (· :: read)) rest'
      | none => none
    else if c.toNat < 0x20 then none
    else quoted? (read?.map (c :: ·)) rest
termination_by cs.length

theorem quoted?_length {read? s? : Option (List Char)} {cs rest : List Char}
    (h : quoted? read? cs = some (s?, rest)) : rest.length < cs.length := by
  fun_induction quoted? read? cs with
  | case1 => simp at h
  | case2 => cases h; simp
  | case3 read r e r' he hlt _ ih =>
      have := ih h
      simp only [List.length_cons]
      omega
  | case4 => simp at h
  | case5 => simp at h
  | case6 read c r _ _ _ ih =>
      have := ih h
      simp only [List.length_cons]
      omega

/-- The token that a single character is. -/
def ofChar? (c : Char) : Option Token :=
  if c = '[' then some .openList
  else if c = ']' then some .closeList
  else if c = '{' then some .openMap
  else if c = '}' then some .closeMap
  else if c = ',' then some .comma
  else if c = ':' then some .colon
  else none

/-- Whether a character may stand in a number or a word. -/
def isWordChar (c : Char) : Bool :=
  c.isAlphanum || c = '+' || c = '-' || c = '.'

/-- The scalar that a run of word characters is; a number that is too large cannot be read. -/
def word? (cs : List Char) : Option (Option Scalar) :=
  if cs = ['n', 'u', 'l', 'l'] then some (some .null)
  else if cs = ['t', 'r', 'u', 'e'] then some (some (.bool true))
  else if cs = ['f', 'a', 'l', 's', 'e'] then some (some (.bool false))
  else (Number.Numeral.ofChars? cs).map fun n => n.toNumber?.map .number

/-- The tokens of a text. -/
def ofChars? (cs : List Char) : Option (List Token) :=
  match cs with
  | [] => some []
  | c :: rest =>
    if isSpace c then ofChars? rest
    else if c = '"' then
      match h : quoted? (some []) rest with
      | some (s?, rest') =>
        have := quoted?_length h
        (ofChars? rest').map (.text (s?.map String.ofList) :: ·)
      | none => none
    else
      match ofChar? c with
      | some token => (ofChars? rest).map (token :: ·)
      | none =>
        have := Text.length_dropWhile_le isWordChar rest
        match word? (c :: rest.takeWhile isWordChar) with
        | some s? => (ofChars? (rest.dropWhile isWordChar)).map (.word s? :: ·)
        | none => none
termination_by cs.length

end Token

end Guardrail.Json
