import Guardrail.Condition.Basic
import Guardrail.Record.View
import Guardrail.Record.Flat
import Guardrail.Pattern.Cache
import Guardrail.Decimal.Reading

/-!
# Evaluating conditions

Whether a condition holds of a flattened record and the view of its resource. Every condition has
an answer: a path that leads nowhere counts as an absent field.
-/

namespace Guardrail

/-- Whether two binary fractions stand in an order. -/
def Order.holds (x bound : Float) : Order → Bool
  | .above => x > bound
  | .below => x < bound
  | .atLeast => x ≥ bound
  | .atMost => x ≤ bound

/-- Whether a size compares with a count. -/
def SizeOrder.holds (size count : Nat) : SizeOrder → Bool
  | .equal => size = count
  | .unequal => size ≠ count
  | .above => size > count
  | .atLeast => size ≥ count
  | .below => size < count
  | .atMost => size ≤ count

namespace Json

/-- The binary fraction that a value is or, as a text between blanks, denotes. -/
def numeric? : Json → Option Float
  | .number n => some n.toFloat
  | .text s => (Decimal.float? (Text.trim s.toList)).filter Float.isFinite
  | _ => none

/-- The number of elements or members of a value. -/
def size? : Json → Option Nat
  | .array xs => some xs.length
  | .object ms => some ms.length
  | _ => none

/-- Whether a text has a part, or an array an element. -/
def containsValue (x value : Json) : Bool :=
  match x, value with
  | .text s, .text part => Text.occurs part.toList s.toList
  | .array xs, value => xs.any (·.agrees value)
  | _, _ => false

end Json

namespace Condition

variable (data : FlatRecord) (view? : Option ResourceView)

mutual

/-- Whether a condition holds. -/
def holds : Condition → Bool
  | .equals field value => (data.get? field).any (·.agrees value)
  | .differs field value => !(data.get? field).any (·.agrees value)
  | .contains field value => (data.get? field).any (·.containsValue value)
  | .matches field pattern =>
    ((data.get? field).bind Json.scalarText?).any (Pattern.test pattern)
  | .compares order field bound =>
    ((data.get? field).bind Json.numeric?).any fun x => order.holds x bound
  | .present field => (data.get? field).any fun x => !x.isNull
  | .absent field => (data.get? field).all Json.isNull
  | .oneOf field values => (data.get? field).any fun x => values.any x.agrees
  | .noneOf field values => !(data.get? field).any fun x => values.any x.agrees
  | .size field order count =>
    ((data.get? field).bind Json.size?).any fun n => order.holds n count
  | .tagMissing tag => (view?.bind (·.tag? tag)).all (· = "")
  | .tagEquals tag value? => (view?.bind (·.tag? tag)).any fun v => value?.all (v = ·)
  | .resourceKind value => view?.bind (·.kind?) = some value
  | .provider value => view?.bind (·.provider?) = some value
  | .region value => view?.bind (·.region?) = some value
  | .all conditions => holdsAll conditions
  | .any conditions => holdsAny conditions
  | .not condition => !condition.holds
  | .custom _ => true

/-- Whether all of several conditions hold. -/
def holdsAll : List Condition → Bool
  | [] => true
  | c :: cs => c.holds && holdsAll cs

/-- Whether one of several conditions holds. -/
def holdsAny : List Condition → Bool
  | [] => false
  | c :: cs => c.holds || holdsAny cs

end

end Condition

end Guardrail
