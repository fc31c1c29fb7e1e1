/-!
# Searching and cutting texts

Operations on the list of a text's characters: whether one text occurs in another, what follows a
given start, and the pieces between separators.
-/

namespace Guardrail.Text

/-- What follows `start` in a text that begins with it. -/
def after? : List Char → List Char → Option (List Char)
  | [], cs => some cs
  | _ :: _, [] => none
  | a :: start, c :: cs => if a = c then after? start cs else none

/-- Whether `needle` occurs in a text. -/
def occurs (needle : List Char) : List Char → Bool
  | [] => needle.isEmpty
  | c :: cs => (after? needle (c :: cs)).isSome || occurs needle cs

/-- The text in front of the first occurrence of `mark`, and behind it. -/
def splitOnce? (mark : List Char) : List Char → Option (List Char × List Char)
  | [] => if mark.isEmpty then some ([], []) else none
  | c :: cs =>
    match after? mark (c :: cs) with
    | some rest => some ([], rest)
    | none => (splitOnce? mark cs).map fun (front, rest) => (c :: front, rest)

/-- The pieces between the characters that satisfy `sep`, empty ones included. -/
def splitWhere (sep : Char → Bool) : List Char → List (List Char)
  | [] => [[]]
  | c :: cs =>
    if sep c then [] :: splitWhere sep cs
    else
      match splitWhere sep cs with
      | [] => [[c]]
      | piece :: pieces => (c :: piece) :: pieces

theorem length_dropWhile_le (p : Char → Bool) (cs : List Char) :
    (cs.dropWhile p).length ≤ cs.length :=
  (List.dropWhile_sublist p).length_le

theorem after?_eq_some_iff {start cs rest : List Char} :
    after? start cs = some rest ↔ cs = start ++ rest := by
  induction start generalizing cs with
  | nil => simp [after?, eq_comm]
  | cons a start ih =>
      cases cs with
      | nil => simp [after?]
      | cons c cs =>
          by_cases h : a = c
          · simp [after?, h, ih]
          · simp [after?, h, Ne.symm h]

theorem after?_append (front start cs : List Char) :
    after? (front ++ start) cs = (after? front cs).bind (after? start) := by
  induction front generalizing cs with
  | nil => rfl
  | cons a front ih =>
      cases cs with
      | nil => rfl
      | cons c cs => by_cases h : a = c <;> simp [after?, h, ih]

end Guardrail.Text
