import Guardrail.Rego.Expression

/-!
# Statements of a rule

The statements that are understood: comparisons of a path with a literal, tests whether a path
leads anywhere, `contains`, `re_match` and `count`, and the assignment of a message. A statement
is a text without blanks at its ends, and it is understood as a whole or not at all.
-/

namespace Guardrail.Rego

/-- The comparison read from the other side. -/
def flip : SizeOrder → SizeOrder
  | .above => .below
  | .atLeast => .atMost
  | .below => .above
  | .atMost => .atLeast
  | order => order

/-- The condition that a field compares with a literal; only numbers have an order. -/
def comparison? (field : String) (order : SizeOrder) (literal : Json) : Option Condition :=
  let ordered (order : Order) : Option Condition :=
    match literal with
    | .number n => some (.compares order field n.toFloat)
    | _ => none
  match order with
  | .equal => some (.equals field literal)
  | .unequal => some (.differs field literal)
  | .above => ordered .above
  | .atLeast => ordered .atLeast
  | .below => ordered .below
  | .atMost => ordered .atMost

/-- What was read, if nothing follows it. -/
def whole? {α : Type} : Option (α × List Char) → Option α
  | some (x, []) => some x
  | _ => none

/-- The text behind blanks and a sign. -/
def expect? (sign : Char) (cs : List Char) : Option (List Char) :=
  match skipBlanks cs with
  | c :: rest => if c = sign then some rest else none
  | [] => none

/-- The two arguments of a call, read up to the closing parenthesis at the end of the text. -/
def arguments? {α β : Type} (first : List Char → Option (α × List Char))
    (second : List Char → Option (β × List Char)) (cs : List Char) : Option (α × β) := do
  let (a, rest) ← first (skipBlanks cs)
  let rest ← expect? ',' rest
  let (b, rest) ← second (skipBlanks rest)
  let rest ← expect? ')' rest
  if rest.isEmpty then some (a, b) else none

/-- `not` and a path. -/
def absence? (cs : List Char) : Option Condition := do
  let rest ← Text.after? ['n', 'o', 't'] cs
  if skipBlanks rest = rest then none
  else (whole? (path? (skipBlanks rest))).map .absent

/-- `contains` with a path and a literal. -/
def containment? (cs : List Char) : Option Condition := do
  let rest ← Text.after? "contains(".toList cs
  let (field, value) ← arguments? path? literal? rest
  return .contains field value

/-- A pattern: a JSON string, or a text between backquotes. -/
def pattern? (cs : List Char) : Option (String × List Char) :=
  match cs with
  | '\x60' :: cs =>
    match cs.dropWhile (· ≠ '\x60') with
    | _ :: rest => some (String.ofList (cs.takeWhile (· ≠ '\x60')), rest)
    | [] => none
  | cs => string? cs

/-- `re_match` or `regex.match` with a pattern and a path. -/
def patternTest? (cs : List Char) : Option Condition := do
  let rest ← (Text.after? "re_match(".toList cs).or (Text.after? "regex.match(".toList cs)
  let (pattern, field) ← arguments? pattern? path? rest
  return .matches field pattern

/-- The greatest count that can be compared with. -/
def greatestCount : Nat := Decimal.twoTo 64 - 1

/-- `count` of a path compared with a number. -/
def sizeTest? (cs : List Char) : Option Condition := do
  let rest ← Text.after? "count(".toList cs
  let (field, rest) ← path? (skipBlanks rest)
  let rest ← expect? ')' rest
  let (order, rest) ← operator? (skipBlanks rest)
  let digits := skipBlanks rest
  let count := Decimal.natOfDigits digits
  if digits.isEmpty || !digits.all Char.isDigit || greatestCount < count then none
  else some (.size field order count)

/-- A path compared with a literal, or a path alone. -/
def pathTest? (cs : List Char) : Option Condition := do
  let (field, rest) ← path? cs
  if rest.isEmpty then return .present field
  else
    let (order, rest) ← operator? (skipBlanks rest)
    let literal ← whole? (literal? (skipBlanks rest))
    comparison? field order literal

/-- A literal compared with a path. -/
def reversedTest? (cs : List Char) : Option Condition := do
  let (literal, rest) ← literal? cs
  let (order, rest) ← operator? (skipBlanks rest)
  let field ← whole? (path? (skipBlanks rest))
  comparison? field (flip order) literal

/-- The condition of a statement. -/
def condition? (cs : List Char) : Option Condition :=
  (absence? cs).or <| (containment? cs).or <| (patternTest? cs).or <| (sizeTest? cs).or <|
    (pathTest? cs).or (reversedTest? cs)

/-- What an assignment to a variable assigns. -/
def assigned? (variableName : List Char) (cs : List Char) : Option (List Char) := do
  let (name, rest) ← name? cs
  if name ≠ variableName then none
  else
    match skipBlanks rest with
    | ':' :: '=' :: rest => some (Text.trim rest)
    | '=' :: rest => some (Text.trim rest)
    | _ => none

/-- The message that a statement assigns to a variable: a JSON string, or the format of a call of
`sprintf`. -/
def message? (variableName : List Char) (cs : List Char) : Option String := do
  let value ← assigned? variableName cs
  match whole? (string? value) with
  | some s => some s
  | none => do
    let rest ← Text.after? "sprintf(".toList value
    let (format, rest) ← string? (skipBlanks rest)
    let _ ← expect? ',' rest
    return format

end Guardrail.Rego
