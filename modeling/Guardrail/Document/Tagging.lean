import Guardrail.Document.Basic

/-!
# Kinds in documents

A value of one of several kinds is written as a mapping with its kind under `type`, or as a list
that begins with the kind. What is left without the kind describes the value.
-/

namespace Guardrail.Document

/-- Whether the entry under a name gives the kind. -/
def isKindName : Document → Bool
  | .scalar (.text s) => s = "type"
  | _ => false

/-- Whether an entry gives the kind. -/
def isKindEntry (e : Document × Document) : Bool :=
  isKindName e.1

/-- The kind in a document, as `read` understands it, and the document without it. -/
def splitKind? {α : Type} (read : Document → Option α) : Document → Option (α × Document)
  | .list (kind :: items) => (read kind).map (·, .list items)
  | .map entries =>
    match entries.filter isKindEntry with
    | [(_, kind)] => (read kind).map (·, .map (entries.filter (!isKindEntry ·)))
    | _ => none
  | _ => none

theorem sizeOf_filter_le (p : Document × Document → Bool) (entries : List (Document × Document)) :
    sizeOf (entries.filter p) ≤ sizeOf entries := by
  induction entries with
  | nil => simp
  | cons e entries ih =>
      rw [List.filter_cons]
      split <;> simp only [List.cons.sizeOf_spec] <;> omega

theorem sizeOf_splitKind?_le {α : Type} {read : Document → Option α} {d body : Document} {kind : α}
    (h : splitKind? read d = some (kind, body)) : sizeOf body ≤ sizeOf d := by
  unfold splitKind? at h
  split at h
  · simp only [Option.map_eq_some_iff, Prod.mk.injEq] at h
    obtain ⟨_, -, -, rfl⟩ := h
    simp
  · split at h
    · simp only [Option.map_eq_some_iff, Prod.mk.injEq] at h
      obtain ⟨_, -, -, rfl⟩ := h
      simpa using sizeOf_filter_le _ _
    · simp at h
  · simp at h

end Guardrail.Document
