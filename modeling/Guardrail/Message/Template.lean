import Guardrail.Record.Flat
import Guardrail.Json.Printer
import Guardrail.Text.Blank

/-!
# Message templates

A placeholder is a path between double braces, with blanks around it if one likes. A template is
cut into literal characters and placeholders from left to right; rendering replaces each
placeholder once and never looks at the replacement again.
-/

namespace Guardrail.Message

/-- A piece of a template. -/
inductive Piece where
  | literal (c : Char)
  | placeholder (path : List Char)
  deriving DecidableEq, Repr

/-- The characters that a placeholder's path is made of. -/
def isPathChar (c : Char) : Bool :=
  c.isAlphanum || c = '_' || c = '.' || c = '-' || c = '[' || c = ']'

/-- The path of the placeholder that a text begins with, and what follows the placeholder. -/
def placeholder? (cs : List Char) : Option (List Char × List Char) :=
  match cs with
  | '{' :: '{' :: rest =>
    let body := rest.dropWhile Text.isBlank
    let path := body.takeWhile isPathChar
    match (body.dropWhile isPathChar).dropWhile Text.isBlank with
    | '}' :: '}' :: tail => if path.isEmpty then none else some (path, tail)
    | _ => none
  | _ => none

theorem placeholder?_length {cs path rest : List Char} (h : placeholder? cs = some (path, rest)) :
    rest.length < cs.length := by
  unfold placeholder? at h
  split at h
  · rename_i tail
    have h1 := (List.dropWhile_sublist Text.isBlank (l := tail)).length_le
    have h2 := (List.dropWhile_sublist isPathChar (l := tail.dropWhile Text.isBlank)).length_le
    have h3 := (List.dropWhile_sublist Text.isBlank
      (l := (tail.dropWhile Text.isBlank).dropWhile isPathChar)).length_le
    dsimp only at h
    split at h
    · rename_i rest' heq
      rw [heq] at h3
      split at h
      · simp at h
      · cases h
        simp only [List.length_cons] at *
        omega
    · simp at h
  · simp at h

/-- The pieces of a template. -/
def pieces (cs : List Char) : List Piece :=
  match cs with
  | [] => []
  | c :: rest =>
    match h : placeholder? (c :: rest) with
    | some (path, tail) =>
      have : tail.length < rest.length + 1 := placeholder?_length h
      .placeholder path :: pieces tail
    | none => .literal c :: pieces rest
termination_by cs.length

/-- What a placeholder becomes: a text as it is, another value as JSON text, and the path between
angle brackets if it leads nowhere or to `null`. -/
def substitute (data : FlatRecord) (path : String) : String :=
  match data.get? path with
  | some (.text s) => s
  | some .null => "<" ++ path ++ ">"
  | none => "<" ++ path ++ ">"
  | some x => x.render

/-- The text of a piece. -/
def Piece.render (data : FlatRecord) : Piece → List Char
  | .literal c => [c]
  | .placeholder path => (substitute data (String.ofList path)).toList

/-- The message that a template gives for a record. -/
def render (template : String) (data : FlatRecord) : String :=
  String.ofList ((pieces template.toList).flatMap (Piece.render data))

end Guardrail.Message
