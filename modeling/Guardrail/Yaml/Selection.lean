import Guardrail.Document.Basic
import Guardrail.Document.Tagging
import Guardrail.Yaml.Meaning
import Guardrail.Yaml.Reader

/-!
# Looking for shapes in YAML texts

What a reader finds in a text who looks for a shape. Only where the reader looks are words given
their meaning, copies followed and levels counted; what is nested too deep, and a text in which too
many copies are followed, is refused.
-/

namespace Guardrail.Yaml

/-- Whether the name of a tag begins with an exclamation mark, which stands for the place where the
text is read. -/
def isLocal (name : TagName) : Bool :=
  name.head? = some 0x21

/-- The variant that the name of a tag names. -/
def variant? (name : TagName) : Option String :=
  if !isLocal name then none
  else if name.length = 1 then some "!"
  else String.fromUTF8? ⟨name.tail.toArray⟩

/-- The meaning of words where everything is read. -/
def meaningOf? (style : Style) (name? : Option TagName) (text : String) : Option Scalar :=
  match name? with
  | some name =>
    if (variant? name).isSome then none
    else if isLocal name ∧ style = .plain then meaning? text
    else meaningAs? name text
  | none => if style = .plain then meaning? text else some (.text text)

/-- The truth value of words where one is looked for. -/
def truthOf? (style : Style) (name? : Option TagName) (text : String) : Option Bool :=
  if style = .plain ∨ (style = .literal ∧ name? = some TagName.bool) then truth? text else none

/-- The name that words give where one of several names is looked for: the words, or the variant of
their tag if they say nothing. -/
def choiceOf? (style : Style) (name? : Option TagName) (text : String) : Option String :=
  match name?.bind variant? with
  | none => some text
  | some variant =>
    if style = .plain ∧ (text = "" ∨ isNullWord text) then some variant else none

/-- What a reader finds in words who looks for a shape. Where a list or record is looked for, no
words at all are an empty one. -/
def select? (shape : Shape) (style : Style) (name? : Option TagName) (text : String) :
    Option Document :=
  match shape with
  | .anything | .kinded => (meaningOf? style name? text).map .scalar
  | .text => some (.text text)
  | .truth => (truthOf? style name? text).map fun b => .scalar (.bool b)
  | .choice => (choiceOf? style name? text).map .text
  | .list _ => if style = .plain ∧ text = "" then some (.list []) else none
  | .record _ => if style = .plain ∧ text = "" then some (.map []) else none

/-- Whether a reader of everything accepts the name of a tag. -/
def isPlainName (name? : Option TagName) : Bool :=
  (name?.bind variant?).isNone

/-- How many copies are followed for each part of a text. -/
def copyLimit : Nat := 100

/-- The deepest nesting that is read. -/
def nestingLimit : Nat := 128

/-- A part of the selection; the state is the number of copies followed. -/
abbrev Selecting := StateT Nat Option

namespace Graph

/-- A part of a text, or what it is a copy of. -/
def follow (g : Graph) (n : Node) : Selecting Node := do
  match n with
  | .copy place =>
    let followed := (← get) + 1
    set followed
    if copyLimit * g.parts < followed then failure
    else g.anchors.content? place
  | n => return n

/-- What a reader finds in a part of a text who looks for a shape, if at most `levels` lists and
mappings lie within one another. -/
def select (g : Graph) (levels : Nat) (shape : Shape) (n : Node) : Selecting Document := do
  match ← g.follow n, shape, levels with
  | .words style name? text, shape, _ => Yaml.select? shape style name? text
  | .list name? items, .anything, levels + 1 =>
    if isPlainName name? then return .list (← items.mapM (select g levels .anything))
    else failure
  | .map name? entries, .anything, levels + 1 =>
    if isPlainName name? then
      return .map (← entries.mapM fun (k, n) => do
        return (← select g levels .anything k, ← select g levels .anything n))
    else failure
  | .list name? (kind :: items), .kinded, levels + 1 =>
    if isPlainName name? then
      let kind ← select g levels .text kind
      return .list (kind :: (← items.mapM (select g levels .anything)))
    else failure
  | .map name? entries, .kinded, levels + 1 =>
    if isPlainName name? then
      return .map (← entries.mapM fun (k, n) => do
        let k ← select g levels .anything k
        let shape : Shape := if k.isKindName then .text else .anything
        return (k, ← select g levels shape n))
    else failure
  | .list _ items, .list item, levels + 1 => return .list (← items.mapM (select g levels item))
  | .map _ entries, .record fields, levels + 1 =>
    let found ← entries.mapM fun (k, n) => do
      match ← select g levels .text k with
      | .scalar (.text name) =>
        match fields.lookup name with
        | some shape => return some (Document.text name, ← select g levels shape n)
        | none => return none
      | _ => failure
    return .map (found.filterMap id)
  | _, _, _ => failure
termination_by levels

end Graph

/-- What a reader of a text finds who looks for a shape. -/
def read? (shape : Shape) (s : String) : Option Document := do
  let g ← Graph.ofText? s
  (g.select nestingLimit shape g.root).run' 0

end Guardrail.Yaml
