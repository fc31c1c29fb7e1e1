/-!
# YAML tokens

The pieces of a YAML text. Where brackets are missing, the layout of the text gives the tokens that
open and close lists and mappings.
-/

namespace Guardrail.Yaml

/-- The name of a tag: bytes, which need not make up a text. -/
abbrev TagName := List UInt8

/-- The name that a text is. -/
def TagName.ofString (s : String) : TagName :=
  s.toUTF8.toList

/-- A tag as it is written: a handle, which stands for the start of the name, and the rest of the
name. A name that is written in full has the empty handle. -/
structure Tag where
  handle : String
  suffix : TagName
  deriving DecidableEq, Repr

/-- How words are written: without quotes, in quotes, or as a block whose lines are kept or
folded. -/
inductive Style where
  | plain
  | quoted
  | literal
  | folded
  deriving DecidableEq, Repr

/-- A piece of a YAML text. -/
inductive Token where
  | words (style : Style) (text : String)
  | anchor (name : String)
  /-- The content of an anchor once more. -/
  | copy (name : String)
  | tag (t : Tag)
  /-- The following is a key of a mapping. -/
  | key
  /-- The following is the value of a key. -/
  | value
  /-- The following is an item of a list without brackets. -/
  | item
  | comma
  | openList
  | closeList
  | openMap
  | closeMap
  /-- A list without brackets begins. -/
  | blockList
  /-- A mapping without brackets begins. -/
  | blockMap
  /-- A list or mapping without brackets ends. -/
  | blockEnd
  | documentStart
  | documentEnd
  /-- The text names the version of YAML that it is written in. -/
  | version
  /-- From now on the handle stands for the start of names. -/
  | handle (name : String) (start : TagName)
  deriving DecidableEq, Repr

end Guardrail.Yaml
