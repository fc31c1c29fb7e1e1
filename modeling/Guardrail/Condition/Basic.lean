import Guardrail.Json.Basic

/-!
# Conditions

A condition is a tree of tests on a flattened record and on the resource that the record is
about. Fields are named by their dotted path.
-/

namespace Guardrail

/-- The order in which a number has to stand to a bound. -/
inductive Order where
  | above
  | below
  | atLeast
  | atMost
  deriving DecidableEq, Repr, Inhabited

/-- How the size of a value has to compare with a count. -/
inductive SizeOrder where
  | equal
  | unequal
  | above
  | atLeast
  | below
  | atMost
  deriving DecidableEq, Repr, Inhabited

/-- A test on a record and its resource. -/
inductive Condition where
  /-- The field has a value that agrees with the given one. -/
  | equals (field : String) (value : Json)
  /-- The field is absent or its value does not agree with the given one. -/
  | differs (field : String) (value : Json)
  /-- The field is a text with the given part, or an array with the given element. -/
  | contains (field : String) (value : Json)
  /-- The text form of the field matches a pattern. -/
  | matches (field pattern : String)
  /-- The field is a number on one side of a bound. -/
  | compares (order : Order) (field : String) (bound : Float)
  /-- The field has a value other than `null`. -/
  | present (field : String)
  /-- The field has no value, or it is `null`. -/
  | absent (field : String)
  /-- The field agrees with one of the values. -/
  | oneOf (field : String) (values : List Json)
  /-- The field is absent or agrees with none of the values. -/
  | noneOf (field : String) (values : List Json)
  /-- The number of elements or members of the field compares with a count. -/
  | size (field : String) (order : SizeOrder) (count : Nat)
  /-- The resource lacks a tag, or the tag is empty. -/
  | tagMissing (tag : String)
  /-- The resource has a tag, with a certain value if one is given. -/
  | tagEquals (tag : String) (value? : Option String)
  | resourceKind (value : String)
  | provider (value : String)
  | region (value : String)
  | all (conditions : List Condition)
  | any (conditions : List Condition)
  | not (condition : Condition)
  /-- A test that is carried out elsewhere; it counts as passed here. -/
  | custom (name? : Option String)
  deriving Repr, Inhabited

end Guardrail
