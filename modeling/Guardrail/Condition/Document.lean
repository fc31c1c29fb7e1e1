import Guardrail.Condition.Basic
import Guardrail.Document.Fields
import Guardrail.Document.Tagging

/-!
# Conditions in documents

A condition is one of several kinds, each with fields of its own.
-/

namespace Guardrail

namespace SizeOrder

/-- The name of a comparison. -/
def name : SizeOrder → String
  | .equal => "eq"
  | .unequal => "ne"
  | .above => "gt"
  | .atLeast => "gte"
  | .below => "lt"
  | .atMost => "lte"

/-- The comparison with a name or symbol. -/
def ofName? : String → Option SizeOrder
  | "eq" | "==" => some .equal
  | "ne" | "!=" => some .unequal
  | "gt" | ">" => some .above
  | "gte" | ">=" => some .atLeast
  | "lt" | "<" => some .below
  | "lte" | "<=" => some .atMost
  | _ => none

end SizeOrder

namespace Condition

/-- The kinds of conditions, in the order that numbers them. -/
def kinds : List String :=
  ["field_equals", "field_not_equals", "field_contains", "field_matches", "field_gt", "field_lt",
    "field_gte", "field_lte", "field_exists", "field_not_exists", "field_in", "field_not_in",
    "field_size", "tag_missing", "tag_equals", "resource_type", "provider", "region", "and", "or",
    "not", "custom"]

/-- The kind that a document names; inside another document it may be given by its number. -/
def kind? (inner : Bool) : Document → Option String
  | .scalar (.text s) => some s
  | .scalar (.number (.int (.ofNat i))) => if inner then kinds[i]? else none
  | _ => none

open Document

/-- A condition on a field, the rest read by `read`. -/
def onField? {α : Type} (d : Document) (name : String) (read : Document → Option α)
    (make : String → α → Condition) : Option Condition := do
  let f ← d.fields? ["field", name]
  return make (← f.required? "field" text?) (← f.required? name read)

/-- A condition on a single text. -/
def onText? (d : Document) (name : String) (make : String → Condition) : Option Condition := do
  let f ← d.fields? [name]
  return make (← f.required? name text?)

/-- A condition without conditions in it. -/
def leaf? (kind : String) (d : Document) : Option Condition :=
  match kind with
  | "field_equals" => onField? d "value" toJson? .equals
  | "field_not_equals" => onField? d "value" toJson? .differs
  | "field_contains" => onField? d "value" toJson? .contains
  | "field_matches" => onField? d "pattern" text? .matches
  | "field_gt" => onField? d "value" float? (.compares .above)
  | "field_lt" => onField? d "value" float? (.compares .below)
  | "field_gte" => onField? d "value" float? (.compares .atLeast)
  | "field_lte" => onField? d "value" float? (.compares .atMost)
  | "field_exists" => onText? d "field" .present
  | "field_not_exists" => onText? d "field" .absent
  | "field_in" => onField? d "values" (list? toJson?) .oneOf
  | "field_not_in" => onField? d "values" (list? toJson?) .noneOf
  | "field_size" => do
    let f ← d.fields? ["field", "op", "value"]
    return .size (← f.required? "field" text?) (← f.required? "op" (choice? SizeOrder.ofName?))
      (← f.required? "value" nat?)
  | "tag_missing" => onText? d "tag" .tagMissing
  | "tag_equals" => do
    let f ← d.fields? ["tag", "value"]
    return .tagEquals (← f.required? "tag" text?) (← f.orElse? "value" none (option? text?))
  | "resource_type" => onText? d "value" .resourceKind
  | "provider" => onText? d "value" .provider
  | "region" => onText? d "value" .region
  | "custom" => do
    let f ← d.fields? ["name"]
    return .custom (← f.orElse? "name" none (option? text?))
  | _ => none

/-- The only field of a document, with the given name. -/
def field? (d : Document) (name : String) : Option Document :=
  (d.fields? [name]).bind (·.given.lookup name)

theorem sizeOf_field?_lt {inner : Bool} {d body x : Document} {kind name : String}
    (h : splitKind? (kind? inner) d = some (kind, body)) (hx : field? body name = some x) :
    sizeOf x < sizeOf d := by
  obtain ⟨f, hf, hx⟩ := Option.bind_eq_some_iff.1 hx
  have := Document.sizeOf_field_lt hf hx
  have := sizeOf_splitKind?_le h
  omega

/-- The condition that a document describes. -/
def ofDocument? (inner : Bool) (d : Document) : Option Condition :=
  match h : splitKind? (kind? inner) d with
  | none => none
  | some (kind, body) =>
    if kind = "and" then
      match hx : field? body "conditions" with
      | some (.list items) =>
        (items.attach.mapM fun (x : { x // x ∈ items }) =>
          have := List.sizeOf_lt_of_mem x.2
          have := sizeOf_field?_lt h hx
          ofDocument? true x.1).map .all
      | _ => none
    else if kind = "or" then
      match hx : field? body "conditions" with
      | some (.list items) =>
        (items.attach.mapM fun (x : { x // x ∈ items }) =>
          have := List.sizeOf_lt_of_mem x.2
          have := sizeOf_field?_lt h hx
          ofDocument? true x.1).map .any
      | _ => none
    else if kind = "not" then
      match hx : field? body "condition" with
      | some x =>
        have := sizeOf_field?_lt h hx
        (ofDocument? true x).map .not
      | none => none
    else leaf? kind body
termination_by sizeOf d
decreasing_by
  all_goals simp_all only [list.sizeOf_spec]
  all_goals omega

/-- The condition as the entries that a document would have. -/
def entry (kind : String) (members : List (String × Json)) : Json :=
  Json.ofMembers (("type", .text kind) :: members)

/-- The kind of a comparison. -/
def orderKind : Order → String
  | .above => "field_gt"
  | .below => "field_lt"
  | .atLeast => "field_gte"
  | .atMost => "field_lte"

/-- An optional text as a member. -/
def optionalMember (name : String) (value? : Option String) : List (String × Json) :=
  (value?.map fun v => (name, Json.text v)).toList

mutual

/-- The condition as a value. -/
def toJson : Condition → Json
  | .equals field value => entry "field_equals" [("field", .text field), ("value", value)]
  | .differs field value => entry "field_not_equals" [("field", .text field), ("value", value)]
  | .contains field value => entry "field_contains" [("field", .text field), ("value", value)]
  | .matches field pattern =>
    entry "field_matches" [("field", .text field), ("pattern", .text pattern)]
  | .compares order field bound =>
    entry (orderKind order) [("field", .text field), ("value", .ofFloat bound)]
  | .present field => entry "field_exists" [("field", .text field)]
  | .absent field => entry "field_not_exists" [("field", .text field)]
  | .oneOf field values => entry "field_in" [("field", .text field), ("values", .array values)]
  | .noneOf field values =>
    entry "field_not_in" [("field", .text field), ("values", .array values)]
  | .size field order count =>
    entry "field_size"
      [("field", .text field), ("op", .text order.name), ("value", .ofNat count)]
  | .tagMissing tag => entry "tag_missing" [("tag", .text tag)]
  | .tagEquals tag value? =>
    entry "tag_equals" (("tag", .text tag) :: optionalMember "value" value?)
  | .resourceKind value => entry "resource_type" [("value", .text value)]
  | .provider value => entry "provider" [("value", .text value)]
  | .region value => entry "region" [("value", .text value)]
  | .all conditions => entry "and" [("conditions", .array (toJsonList conditions))]
  | .any conditions => entry "or" [("conditions", .array (toJsonList conditions))]
  | .not condition => entry "not" [("condition", condition.toJson)]
  | .custom name? => entry "custom" (optionalMember "name" name?)

/-- Conditions as values. -/
def toJsonList : List Condition → List Json
  | [] => []
  | c :: cs => c.toJson :: toJsonList cs

end

end Condition

end Guardrail
