import Guardrail.Json.Basic
import Guardrail.Time.Timestamp

/-!
# Requests

What an engine is asked: to judge a proposed change at a point in time.
-/

namespace Guardrail.Engine

/-- A change to be judged. -/
structure Request where
  change : Json
  timestamp : Time.Timestamp
  deriving Repr, Inhabited

namespace Request

/-- The request as a value. -/
def toJson (r : Request) : Json :=
  Json.ofMembers [("changeRequest", r.change), ("timestamp", .text r.timestamp.toText)]

end Request

end Guardrail.Engine
