import Guardrail.Rego.Expression

/-!
# Heads of rules

A line that names the package, and a line that begins a rule: the name of the rule, the variable
or object that it collects, and the brace that opens its body unless that is on the next line.
-/

namespace Guardrail.Rego

/-- The beginning of a rule: its name, and the variable that holds its message if the head names
one. -/
structure Head where
  name : String
  binding? : Option (List Char)
  deriving DecidableEq, Repr, Inhabited

/-- The parts of a dotted name. -/
def dottedName (cs : List Char) : List (List Char) :=
  Text.splitWhere (· = '.') cs

/-- Whether a text is a name. -/
def isName (cs : List Char) : Bool :=
  match name? cs with
  | some (_, []) => true
  | _ => false

/-- The package that a line names. -/
def packageName? (line : List Char) : Option String := do
  let rest ← Text.after? "package".toList line
  if skipBlanks rest = rest then none
  else
    let name := Text.trim rest
    if (dottedName name).all isName then some (String.ofList name) else none

/-- The variable under the key `msg` of an object: the first one in the text. -/
def objectVariable? : List Char → Option (List Char)
  | [] => none
  | c :: cs =>
    let here : Option (List Char) := do
      let rest ← Text.after? "\"msg\"".toList (c :: cs)
      match skipBlanks rest with
      | ':' :: rest => (name? (skipBlanks rest)).map Prod.fst
      | _ => none
    here.or (objectVariable? cs)

/-- Whether a character is a word character. Those of ASCII need no table. -/
def isWordChar (c : Char) : Bool :=
  isNameChar c || (0x80 ≤ c.toNat && Unicode.inRanges Unicode.word c.toNat)

/-- The text behind the word `if` and its blanks, if the text begins with that word. -/
def skipIf (cs : List Char) : List Char :=
  match cs with
  | 'i' :: 'f' :: rest => if rest.head?.any isWordChar then cs else skipBlanks rest
  | _ => cs

/-- The end of a head: an `if` that may be missing, and the brace that opens the body with what
follows it, or nothing. -/
def opening? (cs : List Char) : Option (Option (List Char)) :=
  match skipIf (skipBlanks cs) with
  | [] => some none
  | '{' :: rest => some (some rest)
  | _ => none

/-- A name in brackets, and the rest; the text begins behind the bracket. -/
def bracketedName? (cs : List Char) : Option (List Char × List Char) := do
  let (name, rest) ← name? (skipBlanks cs)
  match skipBlanks rest with
  | ']' :: rest => some (name, rest)
  | _ => none

/-- An object in brackets and the end of the head behind it. The object ends at the first closing
brace after which the head can end; `read` holds its text, last character first. -/
def bracketedObject? (read : List Char) : List Char →
    Option (List Char × Option (List Char))
  | [] => none
  | c :: cs =>
    let here : Option (List Char × Option (List Char)) :=
      if c = '}' then
        match skipBlanks cs with
        | ']' :: rest => (opening? rest).map ((c :: read).reverse, ·)
        | _ => none
      else none
    here.or (bracketedObject? (c :: read) cs)

/-- The head that a line begins with, and what follows its brace if it has one. -/
def head? (line : List Char) : Option (Head × Option (List Char)) := do
  let (name, rest) ← name? line
  let name := String.ofList name
  let behind := skipBlanks rest
  match behind with
  | '[' :: inside =>
    match bracketedName? inside with
    | some (v, rest) => (opening? rest).map (⟨name, some v⟩, ·)
    | none =>
      match skipBlanks inside with
      | '{' :: object => do
        let (object, body?) ← bracketedObject? ['{'] object
        some (⟨name, objectVariable? object⟩, body?)
      | _ => none
  | _ =>
    match if behind = rest then none else Text.after? "contains".toList behind with
    | some more =>
      if skipBlanks more = more then none
      else do
        let (v, rest) ← name? (skipBlanks more)
        (opening? rest).map (⟨name, some v⟩, ·)
    | none => (opening? behind).map (⟨name, none⟩, ·)

theorem length_skipIf_le (cs : List Char) : (skipIf cs).length ≤ cs.length := by
  unfold skipIf
  split
  · rename_i rest
    split
    · exact Nat.le_refl _
    · have := length_skipBlanks_le rest
      simp only [List.length_cons]
      omega
  · exact Nat.le_refl _

theorem length_lt_of_opening? {cs rest : List Char} (h : opening? cs = some (some rest)) :
    rest.length < cs.length := by
  have h1 := length_skipIf_le (skipBlanks cs)
  have h2 := length_skipBlanks_le cs
  simp only [opening?] at h
  split at h
  · simp at h
  · rename_i heq
    simp only [Option.some.injEq] at h
    simp only [heq, h, List.length_cons] at h1
    omega
  · simp at h

theorem length_lt_of_bracketedName? {cs name rest : List Char}
    (h : bracketedName? cs = some (name, rest)) : rest.length < cs.length := by
  simp only [bracketedName?, bind, Option.bind_eq_some_iff] at h
  obtain ⟨⟨n, r⟩, hn, h⟩ := h
  have h1 := length_lt_of_name? hn
  have h2 := length_skipBlanks_le cs
  have h3 := length_skipBlanks_le r
  dsimp only at h
  split at h
  · rename_i heq
    simp only [Option.some.injEq, Prod.mk.injEq] at h
    simp only [heq, h.2, List.length_cons] at h3
    omega
  · simp at h

theorem length_lt_of_bracketedObject? {read cs object rest : List Char}
    (h : bracketedObject? read cs = some (object, some rest)) : rest.length < cs.length := by
  induction cs generalizing read with
  | nil => simp [bracketedObject?] at h
  | cons c cs ih =>
      simp only [bracketedObject?, Option.or_eq_some_iff] at h
      rcases h with h | ⟨-, h⟩
      · split at h
        · split at h
          · rename_i tail heq
            simp only [Option.map_eq_some_iff, Prod.mk.injEq] at h
            obtain ⟨_, ho, -, rfl⟩ := h
            have h1 := length_lt_of_opening? ho
            have h2 := length_skipBlanks_le cs
            simp only [heq, List.length_cons] at *
            omega
          · simp at h
        · simp at h
      · have := ih h
        simp only [List.length_cons]
        omega

theorem length_lt_of_head? {line rest : List Char} {h : Head}
    (hh : head? line = some (h, some rest)) : rest.length < line.length := by
  simp only [head?, bind, Option.bind_eq_some_iff] at hh
  obtain ⟨⟨n, r⟩, hn, hh⟩ := hh
  have h1 := length_lt_of_name? hn
  have h2 := length_skipBlanks_le r
  dsimp only at hh
  split at hh
  · rename_i inside heq
    simp only [heq, List.length_cons] at h2
    split at hh
    · rename_i hb
      simp only [Option.map_eq_some_iff, Prod.mk.injEq] at hh
      obtain ⟨_, ho, -, rfl⟩ := hh
      have := length_lt_of_opening? ho
      have := length_lt_of_bracketedName? hb
      omega
    · split at hh
      · rename_i object heq'
        have h3 := length_skipBlanks_le inside
        simp only [heq', List.length_cons] at h3
        simp only [Option.bind_eq_some_iff, Option.some.injEq, Prod.mk.injEq] at hh
        obtain ⟨⟨_, _⟩, ho, -, rfl⟩ := hh
        have := length_lt_of_bracketedObject? ho
        omega
      · simp at hh
  · split at hh
    · rename_i more heq
      split at heq
      · simp at heq
      · rw [Text.after?_eq_some_iff] at heq
        split at hh
        · simp at hh
        · simp only [Option.bind_eq_some_iff] at hh
          obtain ⟨⟨_, r'⟩, hn', hh⟩ := hh
          simp only [Option.map_eq_some_iff, Prod.mk.injEq] at hh
          obtain ⟨_, ho, -, rfl⟩ := hh
          have := length_lt_of_opening? ho
          have := length_lt_of_name? hn'
          have := length_skipBlanks_le more
          have := congrArg List.length heq
          simp only [List.length_append] at this
          omega
    · simp only [Option.map_eq_some_iff, Prod.mk.injEq] at hh
      obtain ⟨_, ho, -, rfl⟩ := hh
      have := length_lt_of_opening? ho
      omega

end Guardrail.Rego
