import Guardrail.Json.Basic

/-!
# Dotted paths

A record is flattened into a table from dotted paths to values. Objects and arrays stand in the
table beside their members, and the elements of an array are named by their index. Members of an
empty name add no dot as long as nothing stands in front of them.
-/

namespace Guardrail

/-- The table of a flattened record, the latest entry of a path in front of earlier ones. -/
structure FlatRecord where
  entries : List (String × Json)
  deriving Repr, Inhabited

namespace FlatRecord

/-- The value that a path leads to. -/
def get? (r : FlatRecord) (path : String) : Option Json :=
  r.entries.lookup path

/-- The path of a member of the value at `base`. -/
def childPath (base name : String) : String :=
  if base = "" then name else base ++ "." ++ name

mutual

/-- The entries below a value, earliest first, down to `levels` segments: what lies below a
member comes before the member itself. -/
def below (levels : Nat) (base : String) : Json → List (String × Json)
  | .array xs => if levels = 0 then [] else belowItems (levels - 1) base 0 xs
  | .object ms => if levels = 0 then [] else belowMembers (levels - 1) base ms
  | _ => []

/-- The entries of the elements of an array, counted from `index`. -/
def belowItems (levels : Nat) (base : String) (index : Nat) : List Json → List (String × Json)
  | [] => []
  | x :: xs =>
    let path := childPath base (Decimal.digitText index)
    below levels path x ++ (path, x) :: belowItems levels base (index + 1) xs

/-- The entries of the members of an object. -/
def belowMembers (levels : Nat) (base : String) : List (String × Json) → List (String × Json)
  | [] => []
  | (k, x) :: ms =>
    let path := childPath base k
    below levels path x ++ (path, x) :: belowMembers levels base ms

end

/-- The table of a record, paths of more than `levels` segments left out. -/
def ofJson (levels : Nat) (record : Json) : FlatRecord :=
  ⟨(below levels "" record).reverse⟩

/-- The depth down to which records are flattened unless a caller says otherwise. -/
def defaultLevels : Nat := 20

/-- The entries that can be looked up, by ascending path. -/
def toList (r : FlatRecord) : List (String × Json) :=
  r.entries.foldr (fun (path, x) found => Json.putMember path x found) []

/-- The number of paths that lead to a value. -/
def size (r : FlatRecord) : Nat :=
  r.toList.length

end FlatRecord

end Guardrail
