import Guardrail.Document.Basic

/-!
# Parts of JSON texts

A JSON text that is well formed may still hold numbers that are too large and texts with half a
character. Whoever looks at one of these, or at something nested too deep, reads nothing; where
nobody looks they do no harm.
-/

namespace Guardrail.Json

/-- A part of a JSON text: a scalar, unless it cannot be read, or a list or mapping. -/
inductive Node where
  | scalar (s? : Option Scalar)
  | list (items : List Node)
  | map (entries : List (Option String × Node))
  deriving Repr, Inhabited

/-- The deepest nesting that is read. -/
def nestingLimit : Nat := 127

namespace Node

mutual

/-- Whether at most `levels` lists and mappings lie within one another. -/
def isWithin (levels : Nat) : Node → Bool
  | .scalar _ => true
  | .list items =>
    match levels with
    | 0 => false
    | levels + 1 => areWithin levels items
  | .map entries =>
    match levels with
    | 0 => false
    | levels + 1 => entriesWithin levels entries

/-- `isWithin` for every item of a list. -/
def areWithin (levels : Nat) : List Node → Bool
  | [] => true
  | n :: ns => isWithin levels n && areWithin levels ns

/-- `isWithin` for every value of a mapping. -/
def entriesWithin (levels : Nat) : List (Option String × Node) → Bool
  | [] => true
  | (_, n) :: es => isWithin levels n && entriesWithin levels es

end

mutual

/-- The document of a part of which everything is read. -/
def document? : Node → Option Document
  | .scalar s? => s?.map .scalar
  | .list items => (documents? items).map .list
  | .map entries => (entryDocuments? entries).map .map

/-- The documents of the items of a list. -/
def documents? : List Node → Option (List Document)
  | [] => some []
  | n :: ns => do
    let d ← document? n
    let ds ← documents? ns
    return d :: ds

/-- The documents of the entries of a mapping. -/
def entryDocuments? : List (Option String × Node) → Option (List (Document × Document))
  | [] => some []
  | (name?, n) :: es => do
    let name ← name?
    let d ← document? n
    let ds ← entryDocuments? es
    return (.text name, d) :: ds

end

/-- What a reader finds who looks for a shape: in a record the fields alone, which may also stand in
their order in a list. At most `levels` lists and mappings may lie within one another. -/
def select? : Nat → Shape → Node → Option Document
  | levels + 1, .list item, .list items => (items.mapM (select? levels item)).map .list
  | levels + 1, .record fields, .map entries => do
    let entries ← entries.mapM fun (name?, n) => do
      let name ← name?
      match fields.lookup name with
      | some shape => return some (Document.text name, ← select? levels shape n)
      | none => return none
    return .map (entries.filterMap id)
  | levels + 1, .record fields, .list items =>
    if items.length ≤ fields.length then
      (((fields.map Prod.snd).zip items).mapM fun (shape, n) => select? levels shape n).map .list
    else none
  | _, .list _, _ => none
  | _, .record _, _ => none
  | levels, _, n => if n.isWithin levels then n.document? else none

end Node

end Guardrail.Json
