import Guardrail.Json.Node
import Guardrail.Json.Token

/-!
# Reading JSON

The tokens of a text are read one by one. The reader keeps the lists and mappings that are still
open, innermost first, and what may come next.
-/

namespace Guardrail.Json

/-- A list or mapping whose end has not been read; its content stands last first. -/
inductive Frame where
  | list (items : List Node)
  | map (entries : List (Option String × Node)) (key? : Option String)
  deriving Repr

/-- What may come next. -/
inductive Stage where
  | value
  | firstItem
  | firstKey
  | key
  | colon
  | next
  | done (n : Node)
  deriving Repr

/-- The state of a reading. -/
structure Reader where
  frames : List Frame
  stage : Stage
  deriving Repr

namespace Reader

/-- The state in front of a text. -/
def start : Reader := ⟨[], .value⟩

/-- A complete value is put into the innermost open list or mapping. -/
def complete (n : Node) : List Frame → Reader
  | [] => ⟨[], .done n⟩
  | .list items :: frames => ⟨.list (n :: items) :: frames, .next⟩
  | .map entries key? :: frames => ⟨.map ((key?, n) :: entries) key? :: frames, .next⟩

/-- A token where a value is expected. -/
def value? (frames : List Frame) : Token → Option Reader
  | .word s? => some (complete (.scalar s?) frames)
  | .text s? => some (complete (.scalar (s?.map .text)) frames)
  | .openList => some ⟨.list [] :: frames, .firstItem⟩
  | .openMap => some ⟨.map [] none :: frames, .firstKey⟩
  | _ => none

/-- A token where a key is expected. -/
def key? : List Frame → Token → Option Reader
  | .map entries _ :: frames, .text key? => some ⟨.map entries key? :: frames, .colon⟩
  | _, _ => none

/-- One token. -/
def step? (r : Reader) (t : Token) : Option Reader :=
  match r.stage, r.frames, t with
  | .value, frames, t => value? frames t
  | .firstItem, _ :: frames, .closeList => some (complete (.list []) frames)
  | .firstItem, frames, t => value? frames t
  | .firstKey, _ :: frames, .closeMap => some (complete (.map []) frames)
  | .firstKey, frames, t => key? frames t
  | .key, frames, t => key? frames t
  | .colon, frames, .colon => some ⟨frames, .value⟩
  | .next, .list items :: frames, .comma => some ⟨.list items :: frames, .value⟩
  | .next, .list items :: frames, .closeList => some (complete (.list items.reverse) frames)
  | .next, .map entries key? :: frames, .comma => some ⟨.map entries key? :: frames, .key⟩
  | .next, .map entries _ :: frames, .closeMap => some (complete (.map entries.reverse) frames)
  | _, _, _ => none

/-- The part that has been read, if the text may end here. -/
def result? (r : Reader) : Option Node :=
  match r.stage with
  | .done n => some n
  | _ => none

end Reader

/-- The content of a well-formed text. -/
def Node.ofText? (s : String) : Option Node := do
  let tokens ← Token.ofChars? s.toList
  let reader ← tokens.foldlM Reader.step? Reader.start
  reader.result?

/-- What a reader of a text finds who looks for a shape. -/
def read? (shape : Shape) (s : String) : Option Document :=
  (Node.ofText? s).bind (Node.select? nestingLimit shape)

/-- The document of a text of which everything is read, however deep it is nested. -/
def document? (s : String) : Option Document :=
  (Node.ofText? s).bind Node.document?

end Guardrail.Json
