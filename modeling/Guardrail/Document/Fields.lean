import Guardrail.Document.Basic

/-!
# Reading values out of documents

A record is read from a mapping, whose unknown entries are passed over, or from a list that gives
its fields in their order. A field given twice makes the record unreadable.
-/

namespace Guardrail.Document

/-- The text that a document is. -/
def text? : Document → Option String
  | .scalar (.text s) => some s
  | _ => none

/-- The scalar that a document is. -/
def scalar? : Document → Option Scalar
  | .scalar s => some s
  | _ => none

/-- The truth value that a document means. -/
def bool? (d : Document) : Option Bool :=
  match d.scalar? with
  | some (.bool b) => some b
  | _ => none

/-- The number that a document means, as a binary fraction. -/
def float? (d : Document) : Option Float :=
  match d.scalar? with
  | some (.number n) => some n.toFloat
  | _ => none

/-- The natural number that a document means. -/
def nat? (d : Document) : Option Nat :=
  match d.scalar? with
  | some (.number (.int (.ofNat n))) => some n
  | _ => none

/-- Whether a document means nothing. -/
def isNull (d : Document) : Bool :=
  d.scalar? == some .null

/-- The list that a document is, each element read by `read`. -/
def list? {α : Type} (read : Document → Option α) : Document → Option (List α)
  | .list items => items.mapM read
  | _ => none

/-- Nothing, or what `read` makes of the document. -/
def option? {α : Type} (read : Document → Option α) (d : Document) : Option (Option α) :=
  if d.isNull then some none else (read d).map some

/-- A table from texts to texts, by ascending key; of two entries with one key the later counts. -/
def textTable? : Document → Option (List (String × String))
  | .map entries => do
    let pairs ← entries.mapM fun (k, d) => do return (← k.text?, ← d.text?)
    let .object members := Json.ofMembers (pairs.map fun (k, v) => (k, .text v)) | none
    members.mapM fun (k, v) => v.text?.map (k, ·)
  | _ => none

/-- One of several named values: the name, or an entry that gives nothing under the name. -/
def choice? {α : Type} (named? : String → Option α) : Document → Option α
  | .scalar (.text s) => named? s
  | .map [(.scalar (.text s), content)] => if content.isNull then named? s else none
  | _ => none

/-- The fields of a record: those that were given, and whether they came as a list. -/
structure Fields where
  given : List (String × Document)
  positional : Bool
  deriving Repr

namespace Fields

/-- The field that a key names: a text, or the position of the field. -/
def keyName? (names : List String) (key : Document) : Option (Option String) :=
  match key with
  | .scalar (.text s) => some (some s)
  | .scalar (.number (.int (.ofNat i))) => some names[i]?
  | _ => none

/-- The fields that the entries of a mapping give. -/
def ofEntries? (names : List String) : List (Document × Document) →
    Option (List (String × Document))
  | [] => some []
  | (k, d) :: entries => do
    let name? ← keyName? names k
    let given ← ofEntries? names entries
    match name? with
    | some name =>
      if name ∉ names then some given
      else if (given.lookup name).isSome then none
      else some ((name, d) :: given)
    | none => some given

end Fields

/-- The fields of a record whose fields have the given names. -/
def fields? (names : List String) : Document → Option Fields
  | .map entries => (Fields.ofEntries? names entries).map (⟨·, false⟩)
  | .list items => if items.length ≤ names.length then some ⟨names.zip items, true⟩ else none
  | _ => none

theorem Fields.mem_of_mem_ofEntries? {names : List String} {entries : List (Document × Document)}
    {given : List (String × Document)} (h : ofEntries? names entries = some given)
    {name : String} {d : Document} (hd : (name, d) ∈ given) : ∃ k, (k, d) ∈ entries := by
  induction entries generalizing given with
  | nil => simp_all [ofEntries?]
  | cons e entries ih =>
      obtain ⟨k, x⟩ := e
      simp only [ofEntries?, bind, Option.bind_eq_some_iff] at h
      obtain ⟨name?, -, rest, hrest, h⟩ := h
      have old (hmem : (name, d) ∈ rest) : ∃ k', (k', d) ∈ (k, x) :: entries :=
        (ih hrest hmem).imp fun _ hk => List.mem_cons_of_mem _ hk
      split at h
      · split at h
        · simp only [Option.some.injEq] at h
          exact old (h ▸ hd)
        · split at h
          · simp at h
          · simp only [Option.some.injEq] at h
            rw [← h, List.mem_cons] at hd
            rcases hd with hd | hd
            · cases hd
              exact ⟨k, List.mem_cons_self⟩
            · exact old hd
      · simp only [Option.some.injEq] at h
        exact old (h ▸ hd)

theorem mem_of_lookup {name : String} {d : Document} {given : List (String × Document)}
    (h : given.lookup name = some d) : (name, d) ∈ given := by
  induction given with
  | nil => simp at h
  | cons e given ih =>
      obtain ⟨k, x⟩ := e
      rw [List.lookup_cons] at h
      split at h
      · simp_all
      · exact List.mem_cons_of_mem _ (ih h)

/-- A field of a document is smaller than the document. -/
theorem sizeOf_field_lt {names : List String} {d x : Document} {f : Fields} {name : String}
    (hf : d.fields? names = some f) (hx : f.given.lookup name = some x) : sizeOf x < sizeOf d := by
  have hmem := mem_of_lookup hx
  unfold fields? at hf
  split at hf
  · simp only [Option.map_eq_some_iff] at hf
    obtain ⟨given, hg, rfl⟩ := hf
    obtain ⟨k, hk⟩ := Fields.mem_of_mem_ofEntries? hg hmem
    have := List.sizeOf_lt_of_mem hk
    simp only [Prod.mk.sizeOf_spec, map.sizeOf_spec] at *
    omega
  · split at hf
    · cases hf
      have := List.sizeOf_lt_of_mem (List.of_mem_zip hmem).2
      simp only [list.sizeOf_spec]
      omega
    · simp at hf
  · simp at hf

namespace Fields

/-- A field that has to be given. -/
def required? {α : Type} (f : Fields) (name : String) (read : Document → Option α) : Option α :=
  (f.given.lookup name).bind read

/-- A field with a value for the case that it is not given. -/
def orElse? {α : Type} (f : Fields) (name : String) (default : α) (read : Document → Option α) :
    Option α :=
  match f.given.lookup name with
  | some d => read d
  | none => some default

/-- A field with a value for the case that it is not given; a list has to give it all the same. -/
def namedOrElse? {α : Type} (f : Fields) (name : String) (default : α)
    (read : Document → Option α) : Option α :=
  match f.given.lookup name with
  | some d => read d
  | none => if f.positional then none else some default

/-- A field that may be nothing; a list has to give it all the same. -/
def optional? {α : Type} (f : Fields) (name : String) (read : Document → Option α) :
    Option (Option α) :=
  f.namedOrElse? name none (option? read)

end Fields

end Guardrail.Document
