/-!
# Lines

A text is cut at its line feeds. A carriage return in front of a line feed belongs to the line's
end; anywhere else it is a character like any other. What follows the last line feed is a line
unless it is empty.
-/

namespace Guardrail.Text

/-- The line without the carriage return that closes it. -/
def dropReturn (line : List Char) : List Char :=
  match line.reverse with
  | '\r' :: rest => rest.reverse
  | _ => line

/-- The lines of a text; `current` holds the characters of the open line, last first. -/
def linesFrom (current : List Char) : List Char → List (List Char)
  | [] => if current.isEmpty then [] else [current.reverse]
  | c :: cs =>
    if c = '\n' then dropReturn current.reverse :: linesFrom [] cs
    else linesFrom (c :: current) cs

/-- The lines of a text. -/
def lines (cs : List Char) : List (List Char) :=
  linesFrom [] cs

end Guardrail.Text
