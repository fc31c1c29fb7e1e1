/-!
# Files

A file that policies or setups are read from: its path, and its bytes if it exists. A text file
holds valid UTF-8, and its extension says how the text is written.
-/

namespace Guardrail

/-- A file; one without bytes does not exist. -/
structure File where
  path : String
  bytes? : Option ByteArray

/-- Why a file has no text. -/
inductive FileTrouble where
  | missing
  | notUtf8
  /-- Another trouble, in the words of the system. -/
  | other (why : String)
  deriving DecidableEq, Repr, Inhabited

/-- The text of a trouble with a file. -/
def FileTrouble.message : FileTrouble → String
  | .missing => "No such file or directory (os error 2)"
  | .notUtf8 => "stream did not contain valid UTF-8"
  | .other why => why

namespace File

/-- The text of a file. -/
def text (f : File) : Except FileTrouble String :=
  match f.bytes? with
  | none => .error .missing
  | some bytes =>
    match String.fromUTF8? bytes with
    | some s => .ok s
    | none => .error .notUtf8

/-- The last part of a path. -/
def baseName (path : List Char) : List Char :=
  (path.reverse.takeWhile (· ≠ '/')).reverse

/-- What follows the last dot of the name, unless nothing stands in front of that dot. -/
def extension? (f : File) : Option String :=
  let reversed := (baseName f.path.toList).reverse
  match reversed.dropWhile (· ≠ '.') with
  | _ :: _ :: _ => some (String.ofList (reversed.takeWhile (· ≠ '.')).reverse)
  | _ => none

/-- Whether the text is written in JSON. -/
def isJson (f : File) : Bool :=
  f.extension? = some "json"

end File

end Guardrail
