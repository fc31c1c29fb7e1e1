import Guardrail.Document.Fields
import Guardrail.Document.Tagging
import Guardrail.Proofs.Json.Documents

/-!
# Reading objects

Whoever reads a record from an object finds under each name what the object has there, and does not
notice members of other names. If the object tells its kind, the rest of it is read in the same way.
-/

namespace Guardrail

/-! ## Members -/

namespace Json

theorem membersToDocument_eq_map (ms : List (String × Json)) :
    membersToDocument ms = ms.map fun m => (Document.text m.1, m.2.toDocument) := by
  induction ms with
  | nil => rfl
  | cons m ms ih => rw [membersToDocument, ih, List.map_cons]

theorem itemsToDocument_eq_map (xs : List Json) : itemsToDocument xs = xs.map toDocument := by
  induction xs with
  | nil => rfl
  | cons x xs ih => rw [itemsToDocument, ih, List.map_cons]

theorem lookup_eq_none_of_lt {name : String} {ms : List (String × Json)}
    (h : ∀ m ∈ ms, name < m.1) : ms.lookup name = none := by
  refine lookup_eq_none_of_notMem fun hmem => ?_
  obtain ⟨m, hm, rfl⟩ := List.mem_map.mp hmem
  exact String.lt_irrefl _ (h m hm)

/-- A name that stands in an object stands there once. -/
theorem filter_eq_of_lookup {name : String} {x : Json} {ms : List (String × Json)}
    (h : ms.Pairwise (·.1 < ·.1)) (hx : ms.lookup name = some x) :
    ms.filter (·.1 = name) = [(name, x)] := by
  induction ms with
  | nil => cases hx
  | cons m ms ih =>
      obtain ⟨k, y⟩ := m
      obtain ⟨hlt, hms⟩ := List.pairwise_cons.mp h
      by_cases he : name = k
      · subst he
        obtain rfl : y = x := by simpa using hx
        have hnone : ms.filter (·.1 = name) = [] := by
          refine List.filter_eq_nil_iff.mpr fun m hm hname => ?_
          exact String.lt_irrefl _ (of_decide_eq_true hname ▸ hlt m hm)
        rw [List.filter_cons_of_pos (by simp), hnone]
      · rw [lookup_cons_of_ne he] at hx
        rw [List.filter_cons_of_neg (by simpa using Ne.symm he), ih hms hx]

theorem lookup_filter_ne {name other : String} (h : name ≠ other) (ms : List (String × Json)) :
    (ms.filter (·.1 ≠ other)).lookup name = ms.lookup name := by
  induction ms with
  | nil => rfl
  | cons m ms ih =>
      obtain ⟨k, y⟩ := m
      by_cases he : k = other
      · have hne : name ≠ k := fun hn => h (hn.trans he)
        rw [List.filter_cons_of_neg (by simpa using he), ih, lookup_cons_of_ne hne]
      · rw [List.filter_cons_of_pos (by simpa using he), List.lookup_cons, List.lookup_cons, ih]

end Json

namespace Document

/-- The fields that an object gives a reader who knows some names. -/
structure Fields.Shows (f : Fields) (names : List String) (x : Json) : Prop where
  positional : f.positional = false
  lookup : ∀ name ∈ names, f.given.lookup name = (x.member? name).map Json.toDocument

theorem exists_ofEntries? {ms : List (String × Json)} (h : ms.Pairwise (·.1 < ·.1))
    (names : List String) :
    ∃ given, Fields.ofEntries? names (Json.membersToDocument ms) = some given ∧
      ∀ name ∈ names, given.lookup name = (ms.lookup name).map Json.toDocument := by
  induction ms with
  | nil => exact ⟨[], rfl, fun _ _ => rfl⟩
  | cons m ms ih =>
      obtain ⟨k, x⟩ := m
      obtain ⟨hlt, hms⟩ := List.pairwise_cons.mp h
      obtain ⟨given, hgiven, hlookup⟩ := ih hms
      by_cases hk : k ∈ names
      · have hnone : given.lookup k = none := by
          rw [hlookup k hk, Json.lookup_eq_none_of_lt hlt, Option.map_none]
        refine ⟨(k, x.toDocument) :: given, ?_, ?_⟩
        · simp [Json.membersToDocument, Fields.ofEntries?, Fields.keyName?, hgiven, hk, hnone]
        · intro name hname
          by_cases he : name = k
          · subst he
            simp
          · rw [lookup_cons_of_ne he, lookup_cons_of_ne he, hlookup name hname]
      · refine ⟨given, ?_, ?_⟩
        · simp [Json.membersToDocument, Fields.ofEntries?, Fields.keyName?, hgiven, hk]
        · intro name hname
          have he : name ≠ k := fun he => hk (he ▸ hname)
          rw [lookup_cons_of_ne he, hlookup name hname]

theorem exists_fields? {ms : List (String × Json)} (h : ms.Pairwise (·.1 < ·.1))
    (names : List String) :
    ∃ f, (Json.object ms).toDocument.fields? names = some f ∧ f.Shows names (.object ms) := by
  obtain ⟨given, hgiven, hlookup⟩ := exists_ofEntries? h names
  exact ⟨⟨given, false⟩, by simp [Json.toDocument, fields?, hgiven], rfl, hlookup⟩

theorem exists_fields?_of_member? {x y : Json} {name : String} (hx : x.isOrdered = true)
    (hy : x.member? name = some y) (names : List String) :
    ∃ f, x.toDocument.fields? names = some f ∧ f.Shows names x := by
  cases x with
  | object ms => exact exists_fields? (Json.isOrdered_object.mp hx).1 names
  | _ => cases hy

/-! ## Kinds -/

theorem filter_membersToDocument (p : Document × Document → Bool) (q : String × Json → Bool)
    (h : ∀ m, p (Document.text m.1, m.2.toDocument) = q m) (ms : List (String × Json)) :
    (Json.membersToDocument ms).filter p = Json.membersToDocument (ms.filter q) := by
  rw [Json.membersToDocument_eq_map, Json.membersToDocument_eq_map, List.filter_map]
  congr 2
  funext m
  exact h m

theorem splitKind?_object {α : Type} (read : Document → Option α) {ms : List (String × Json)}
    {kind : Json} (h : ms.Pairwise (·.1 < ·.1)) (hkind : ms.lookup "type" = some kind) :
    splitKind? read (Json.object ms).toDocument =
      (read kind.toDocument).map (·, (Json.object (ms.filter (·.1 ≠ "type"))).toDocument) := by
  have hentries : (Json.membersToDocument ms).filter isKindEntry =
      [(Document.text "type", kind.toDocument)] := by
    rw [filter_membersToDocument isKindEntry (·.1 = "type") fun _ => rfl,
      Json.filter_eq_of_lookup h hkind]
    rfl
  have hrest : (Json.membersToDocument ms).filter (!isKindEntry ·) =
      Json.membersToDocument (ms.filter (·.1 ≠ "type")) :=
    filter_membersToDocument _ _ (fun _ => by simp [isKindEntry, isKindName]) ms
  rw [Json.toDocument, splitKind?]
  simp only [hentries, hrest]
  rfl

/-- What is left of an object without its kind: everything else is read from it as before. -/
def IsRestOf (body : Document) (x : Json) : Prop :=
  ∀ names, "type" ∉ names → ∃ f, body.fields? names = some f ∧ f.Shows names x

theorem exists_splitKind? {α : Type} {read : Document → Option α} {x kind : Json} {a : α}
    (hx : x.isOrdered = true) (hkind : x.member? "type" = some kind)
    (ha : read kind.toDocument = some a) :
    ∃ body, splitKind? read x.toDocument = some (a, body) ∧ body.IsRestOf x := by
  cases x with
  | object ms =>
      obtain ⟨hms, -⟩ := Json.isOrdered_object.mp hx
      refine ⟨(Json.object (ms.filter (·.1 ≠ "type"))).toDocument, ?_, fun names htype => ?_⟩
      · rw [splitKind?_object read hms hkind, ha, Option.map_some]
      · obtain ⟨f, hf, hpositional, hlookup⟩ := exists_fields? (hms.filter (·.1 ≠ "type")) names
        refine ⟨f, hf, hpositional, fun name hname => ?_⟩
        have hne : name ≠ "type" := fun he => htype (he ▸ hname)
        rw [hlookup name hname, Json.member?, Json.member?, Json.lookup_filter_ne hne]
  | _ => cases hkind

/-! ## Fields -/

namespace Fields

variable {α : Type} {f : Fields} {names : List String} {x y : Json} {name : String}

theorem Shows.required? (h : f.Shows names x) (hname : name ∈ names)
    (hy : x.member? name = some y) (read : Document → Option α) :
    f.required? name read = read y.toDocument := by
  rw [Fields.required?, h.lookup name hname, hy, Option.map_some, Option.bind_some]

theorem Shows.orElse?_some (h : f.Shows names x) (hname : name ∈ names)
    (hy : x.member? name = some y) (default : α) (read : Document → Option α) :
    f.orElse? name default read = read y.toDocument := by
  rw [Fields.orElse?, h.lookup name hname, hy, Option.map_some]

theorem Shows.orElse?_none (h : f.Shows names x) (hname : name ∈ names)
    (hy : x.member? name = none) (default : α) (read : Document → Option α) :
    f.orElse? name default read = some default := by
  rw [Fields.orElse?, h.lookup name hname, hy, Option.map_none]

/-- A member that stands for a value, or is left out where that is the default. -/
theorem Shows.orElse?_eq {a default : α} (h : f.Shows names x) (hname : name ∈ names)
    (hy : x.member? name = some y ∨ a = default ∧ x.member? name = none)
    (read : Document → Option α) (ha : read y.toDocument = some a) :
    f.orElse? name default read = some a := by
  rcases hy with hy | ⟨rfl, hnone⟩
  · rw [h.orElse?_some hname hy, ha]
  · exact h.orElse?_none hname hnone a read

end Fields

/-! ## Lists -/

theorem list?_array {α : Type} (read : Document → Option α) (xs : List Json) :
    list? read (Json.array xs).toDocument = xs.mapM fun x => read x.toDocument := by
  rw [Json.toDocument, list?, Json.itemsToDocument_eq_map, List.mapM_map]
  rfl

theorem list?_toJson? {xs : List Json} (h : (Json.array xs).IsProper) :
    list? toJson? (Json.array xs).toDocument = some xs := by
  rw [list?_array]
  have hxs := Json.isProper_array.mp h
  induction xs with
  | nil => rfl
  | cons x xs ih =>
      obtain ⟨hx, hxs⟩ := List.forall_mem_cons.mp hxs
      simp [Json.toJson?_toDocument hx, ih (Json.isProper_array.mpr hxs) hxs]

end Document

end Guardrail
