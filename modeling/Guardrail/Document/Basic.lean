import Guardrail.Json.Basic

/-!
# Documents

What a JSON or YAML text says to a reader who looks for a value of a certain shape: members stand
in the order of the text, repeated ones are kept, and the names of members may be anything.
-/

namespace Guardrail

/-- The meaning of a single word or number. -/
inductive Scalar where
  | null
  | bool (b : Bool)
  | number (n : Number)
  | text (s : String)
  deriving DecidableEq, Repr, Inhabited

/-- A document. -/
inductive Document where
  | scalar (s : Scalar)
  | list (items : List Document)
  | map (entries : List (Document × Document))
  deriving Repr, Inhabited

namespace Document

/-- The document of a text. -/
abbrev text (s : String) : Document := .scalar (.text s)

end Document

namespace Scalar

/-- The value of a scalar; an infinity or a non-number is `null`. -/
def toJson : Scalar → Json
  | .null => .null
  | .bool b => .bool b
  | .number (.int n) => .number (.int n)
  | .number (.fraction x) => Json.ofFloat x
  | .text s => .text s

end Scalar

namespace Document

mutual

/-- The value that a document stands for: of two members with one name the later one counts, and
every name is a text. -/
def toJson? : Document → Option Json
  | .scalar s => some s.toJson
  | .list items => (itemsToJson? items).map .array
  | .map entries => (entriesToJson? entries).map Json.ofMembers

/-- The values of a list of documents. -/
def itemsToJson? : List Document → Option (List Json)
  | [] => some []
  | d :: ds => do
    let x ← toJson? d
    let xs ← itemsToJson? ds
    return x :: xs

/-- The members of a mapping. -/
def entriesToJson? : List (Document × Document) → Option (List (String × Json))
  | [] => some []
  | (k, d) :: es => do
    let .scalar (.text name) := k | none
    let x ← toJson? d
    let rest ← entriesToJson? es
    return (name, x) :: rest

end

end Document

namespace Json

mutual

/-- A value as a document. -/
def toDocument : Json → Document
  | .null => .scalar .null
  | .bool b => .scalar (.bool b)
  | .number n => .scalar (.number n)
  | .text s => .scalar (.text s)
  | .array xs => .list (itemsToDocument xs)
  | .object ms => .map (membersToDocument ms)

/-- The elements of an array as documents. -/
def itemsToDocument : List Json → List Document
  | [] => []
  | x :: xs => toDocument x :: itemsToDocument xs

/-- The members of an object as entries of a mapping. -/
def membersToDocument : List (String × Json) → List (Document × Document)
  | [] => []
  | (k, x) :: ms => (.text k, toDocument x) :: membersToDocument ms

end

end Json

/-! ## Shapes -/

/-- What a reader looks for in a part of a text. A text is read only as far as that: the entries of a
record that are not among its fields may hold what could not be read. -/
inductive Shape where
  /-- Whatever it says. -/
  | anything
  | text
  | truth
  /-- One of several names. -/
  | choice
  /-- A value with its kind under `type`; all of it is read before the kind is looked at. -/
  | kinded
  | list (item : Shape)
  | record (fields : List (String × Shape))
  deriving Repr, Inhabited

end Guardrail
