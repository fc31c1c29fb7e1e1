import Guardrail.Proofs.Json.Numerals
import Guardrail.Proofs.Json.Strings
import Guardrail.Rego.Statement

/-!
# The grammar of statements

Which texts are statements that are understood, and the condition that each of them states. The
grammar says what a whole text is made of; how a reader finds the parts is no concern of it.
-/

namespace Guardrail.Rego

/-! ## Expressions -/

/-- A JSON string in its quotes, and the text that it stands for. -/
inductive IsQuoted : List Char → String → Prop where
  | intro {body s : List Char} (h : Json.IsString body s) :
      IsQuoted ('"' :: (body ++ ['"'])) (String.ofList s)

/-- A segment of a path, and its name. -/
inductive IsSegment : List Char → String → Prop where
  | name {c : Char} {cs : List Char} (hc : isNameStart c = true)
      (hcs : ∀ d ∈ cs, (isNameChar d || d = '-') = true) :
      IsSegment ('.' :: c :: cs) (String.ofList (c :: cs))
  | text {quoted : List Char} {s : String} (h : IsQuoted quoted s) :
      IsSegment ('[' :: (quoted ++ [']'])) s
  | index {digits : List Char} (hne : digits ≠ []) (h : ∀ d ∈ digits, isIndexChar d = true) :
      IsSegment ('[' :: (digits ++ [']'])) (String.ofList digits)

/-- Segments that follow each other, and their names. -/
inductive IsSegments : List Char → List String → Prop where
  | nil : IsSegments [] []
  | cons {cs ds : List Char} {s : String} {path : List String} (h : IsSegment cs s)
      (hs : IsSegments ds path) : IsSegments (cs ++ ds) (s :: path)

/-- A path into the input, and its field: the names of the segments with dots between them. A first
segment `changeRequest` does not count if there are others. -/
inductive IsPath : List Char → String → Prop where
  | plain {cs : List Char} {s : String} {path : List String} (h : IsSegments cs (s :: path))
      (hs : s = "changeRequest" → path = []) :
      IsPath ("input".toList ++ cs) (".".intercalate (s :: path))
  | request {cs : List Char} {s : String} {path : List String}
      (h : IsSegments cs ("changeRequest" :: s :: path)) :
      IsPath ("input".toList ++ cs) (".".intercalate (s :: path))

/-- The words that are literals. -/
def literalWords : List (List Char × Json) :=
  [("true".toList, .bool true), ("false".toList, .bool false), ("null".toList, .null)]

theorem mem_literalWords {cs : List Char} {v : Json} :
    (cs, v) ∈ literalWords ↔ cs = "true".toList ∧ v = .bool true ∨
      cs = "false".toList ∧ v = .bool false ∨ cs = "null".toList ∧ v = .null := by
  simp [literalWords]

/-- A literal and its value. A numeral that is out of range has none. -/
inductive IsLiteral : List Char → Json → Prop where
  | text {cs : List Char} {s : String} (h : IsQuoted cs s) : IsLiteral cs (.text s)
  | number {cs : List Char} {n : Number.Numeral} {x : Number} (h : Number.IsNumeral cs n)
      (hx : n.toNumber? = some x) : IsLiteral cs (Scalar.number x).toJson
  | word {cs : List Char} {v : Json} (h : (cs, v) ∈ literalWords) : IsLiteral cs v

/-- A pattern in quotes or backquotes. -/
inductive IsPattern : List Char → String → Prop where
  | quoted {cs : List Char} {s : String} (h : IsQuoted cs s) : IsPattern cs s
  | raw {cs : List Char} (h : '\x60' ∉ cs) :
      IsPattern ('\x60' :: (cs ++ ['\x60'])) (String.ofList cs)

/-- A number of elements, as far as it can be counted with 64 bits. -/
inductive IsCount : List Char → Nat → Prop where
  | intro {ds : List Char} (h : Number.IsDigits ds)
      (hfits : Decimal.natOfDigits ds < Decimal.twoTo 64) : IsCount ds (Decimal.natOfDigits ds)

/-! ## Signs and blanks -/

/-- The signs of the comparisons of a field with a value. -/
def signs : List (List Char × SizeOrder) :=
  [("==".toList, .equal), ("!=".toList, .unequal), (">".toList, .above), (">=".toList, .atLeast),
    ("<".toList, .below), ("<=".toList, .atMost)]

/-- The signs of the same comparisons where the value stands in front of the field. -/
def mirroredSigns : List (List Char × SizeOrder) :=
  [("==".toList, .equal), ("!=".toList, .unequal), ("<".toList, .above), ("<=".toList, .atLeast),
    (">".toList, .below), (">=".toList, .atMost)]

def IsSign (cs : List Char) (order : SizeOrder) : Prop :=
  (cs, order) ∈ signs

theorem isSign_iff {cs : List Char} {order : SizeOrder} :
    IsSign cs order ↔ cs = ['=', '='] ∧ order = .equal ∨ cs = ['!', '='] ∧ order = .unequal ∨
      cs = ['>'] ∧ order = .above ∨ cs = ['>', '='] ∧ order = .atLeast ∨
      cs = ['<'] ∧ order = .below ∨ cs = ['<', '='] ∧ order = .atMost := by
  simp [IsSign, signs]

def IsMirroredSign (cs : List Char) (order : SizeOrder) : Prop :=
  (cs, order) ∈ mirroredSigns

/-- Blanks, or nothing. -/
def IsBlanks (cs : List Char) : Prop :=
  ∀ c ∈ cs, Text.isBlank c = true

/-- A text of a language, and blanks around it. -/
inductive Padded {α : Type} (language : List Char → α → Prop) : List Char → α → Prop where
  | intro {before cs behind : List Char} {a : α} (hbefore : IsBlanks before) (h : language cs a)
      (hbehind : IsBlanks behind) : Padded language (before ++ (cs ++ behind)) a

/-! ## Statements -/

/-- The condition that a field compares with a value; only numbers are above or below others. -/
inductive Compares (field : String) : SizeOrder → Json → Condition → Prop where
  | equal (v : Json) : Compares field .equal v (.equals field v)
  | unequal (v : Json) : Compares field .unequal v (.differs field v)
  | above (n : Number) : Compares field .above (.number n) (.compares .above field n.toFloat)
  | atLeast (n : Number) : Compares field .atLeast (.number n) (.compares .atLeast field n.toFloat)
  | below (n : Number) : Compares field .below (.number n) (.compares .below field n.toFloat)
  | atMost (n : Number) : Compares field .atMost (.number n) (.compares .atMost field n.toFloat)

/-- A statement that is understood, and its condition. -/
inductive IsStatement : List Char → Condition → Prop where
  | absent {blanks path : List Char} {field : String} (hblanks : IsBlanks blanks)
      (hne : blanks ≠ []) (hpath : IsPath path field) :
      IsStatement ("not".toList ++ (blanks ++ path)) (.absent field)
  | present {path : List Char} {field : String} (hpath : IsPath path field) :
      IsStatement path (.present field)
  | contains {path literal : List Char} {field : String} {value : Json}
      (hpath : Padded IsPath path field) (hliteral : Padded IsLiteral literal value) :
      IsStatement ("contains(".toList ++ (path ++ ',' :: (literal ++ [')'])))
        (.contains field value)
  | pattern {call quoted path : List Char} {pattern field : String}
      (hcall : call ∈ ["re_match(".toList, "regex.match(".toList])
      (hpattern : Padded IsPattern quoted pattern) (hpath : Padded IsPath path field) :
      IsStatement (call ++ (quoted ++ ',' :: (path ++ [')']))) (.matches field pattern)
  | size {path sign digits : List Char} {field : String} {order : SizeOrder} {count : Nat}
      (hpath : Padded IsPath path field) (hsign : Padded IsSign sign order)
      (hcount : IsCount digits count) :
      IsStatement ("count(".toList ++ (path ++ ')' :: (sign ++ digits))) (.size field order count)
  | compare {path sign literal : List Char} {field : String} {order : SizeOrder} {value : Json}
      {c : Condition} (hpath : IsPath path field) (hsign : Padded IsSign sign order)
      (hliteral : IsLiteral literal value) (hc : Compares field order value c) :
      IsStatement (path ++ (sign ++ literal)) c
  | compareMirrored {literal sign path : List Char} {value : Json} {order : SizeOrder}
      {field : String} {c : Condition} (hliteral : IsLiteral literal value)
      (hsign : Padded IsMirroredSign sign order) (hpath : IsPath path field)
      (hc : Compares field order value c) : IsStatement (literal ++ (sign ++ path)) c

end Guardrail.Rego
