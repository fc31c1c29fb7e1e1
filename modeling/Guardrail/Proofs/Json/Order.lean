import Guardrail.Proofs.Json.Children

/-!
# Ordered values

A value is ordered if every object in it lists its names in ascending order, each once. Every value
that is read from a document is ordered.
-/

namespace Guardrail

namespace Json

/-- Whether every object lists its names in ascending order, each once. -/
def isOrdered (x : Json) : Bool :=
  x.namesMeet fun names => decide (names.Pairwise (· < ·))

theorem lt_of_not_lt_of_ne {a b : String} (h : ¬ a < b) (hne : a ≠ b) : b < a :=
  Decidable.byContradiction fun hn =>
    hne (String.le_antisymm (String.not_lt.mp hn) (String.not_lt.mp h))

theorem mem_putMember {name : String} {value : Json} {ms : List (String × Json)}
    {m : String × Json} (h : m ∈ putMember name value ms) : m = (name, value) ∨ m ∈ ms := by
  induction ms with
  | nil => simpa [putMember] using h
  | cons m' ms ih =>
      simp only [putMember] at h
      split at h
      · simpa using h
      · split at h
        · rcases List.mem_cons.mp h with h | h
          · exact .inl h
          · exact .inr (List.mem_cons_of_mem _ h)
        · rcases List.mem_cons.mp h with h | h
          · exact .inr (h ▸ List.mem_cons_self)
          · exact (ih h).imp_right (List.mem_cons_of_mem _)

theorem pairwise_putMember (name : String) (value : Json) {ms : List (String × Json)}
    (h : ms.Pairwise (·.1 < ·.1)) : (putMember name value ms).Pairwise (·.1 < ·.1) := by
  induction ms with
  | nil => simp [putMember]
  | cons m ms ih =>
      obtain ⟨hm, hms⟩ := List.pairwise_cons.mp h
      simp only [putMember]
      split
      · rename_i hlt
        refine List.pairwise_cons.mpr ⟨?_, h⟩
        intro m' hm'
        rcases List.mem_cons.mp hm' with rfl | hm'
        · exact hlt
        · exact String.lt_trans hlt (hm m' hm')
      · rename_i hlt
        split
        · rename_i heq
          exact List.pairwise_cons.mpr ⟨heq ▸ hm, hms⟩
        · rename_i hne
          refine List.pairwise_cons.mpr ⟨?_, ih hms⟩
          intro m' hm'
          rcases mem_putMember hm' with rfl | hm'
          · exact lt_of_not_lt_of_ne hlt hne
          · exact hm m' hm'

theorem isOrdered_object {ms : List (String × Json)} :
    (Json.object ms).isOrdered = true ↔
      ms.Pairwise (·.1 < ·.1) ∧ ∀ m ∈ ms, m.2.isOrdered = true := by
  rw [isOrdered, namesMeet_object, decide_eq_true_eq, List.pairwise_map]
  rfl

theorem isOrdered_of_member? {x y : Json} {name : String} (hx : x.isOrdered = true)
    (hy : x.member? name = some y) : y.isOrdered = true := by
  cases x with
  | object ms =>
      obtain ⟨front, back, rfl, -⟩ := List.lookup_eq_some_iff.mp hy
      exact (isOrdered_object.mp hx).2 (name, y) (by simp)
  | _ => cases hy

theorem isOrdered_ofMembers {ms : List (String × Json)} (h : ∀ m ∈ ms, m.2.isOrdered = true) :
    (ofMembers ms).isOrdered = true := by
  suffices hf : ∀ found : List (String × Json), found.Pairwise (·.1 < ·.1) →
      (∀ m ∈ found, m.2.isOrdered = true) →
      (Json.object (ms.foldl (fun ms m => putMember m.1 m.2 ms) found)).isOrdered = true from
    hf [] .nil (by simp)
  induction ms with
  | nil => exact fun found hp ho => isOrdered_object.mpr ⟨hp, ho⟩
  | cons m ms ih =>
      intro found hp ho
      refine ih (fun m' hm' => h m' (List.mem_cons_of_mem _ hm')) _
        (pairwise_putMember m.1 m.2 hp) ?_
      intro m' hm'
      rcases mem_putMember hm' with rfl | hm'
      · exact h m List.mem_cons_self
      · exact ho m' hm'

end Json

namespace Document

theorem isOrdered_scalar (s : Scalar) : s.toJson.isOrdered = true := by
  cases s with
  | number n =>
      cases n with
      | int n => rfl
      | fraction x =>
          simp only [Scalar.toJson, Json.ofFloat]
          split <;> rfl
  | _ => rfl

mutual

/-- Whatever a document stands for is ordered. -/
theorem isOrdered_of_toJson? :
    ∀ {d : Document} {x : Json}, d.toJson? = some x → x.isOrdered = true
  | .scalar s, x, h => by
      simp only [toJson?, Option.some.injEq] at h
      exact h ▸ isOrdered_scalar s
  | .list ds, x, h => by
      simp only [toJson?, Option.map_eq_some_iff] at h
      obtain ⟨xs, hxs, rfl⟩ := h
      exact Json.namesMeet_array.mpr (isOrdered_of_itemsToJson? hxs)
  | .map es, x, h => by
      simp only [toJson?, Option.map_eq_some_iff] at h
      obtain ⟨ms, hms, rfl⟩ := h
      exact Json.isOrdered_ofMembers (isOrdered_of_entriesToJson? hms)

theorem isOrdered_of_itemsToJson? :
    ∀ {ds : List Document} {xs : List Json}, itemsToJson? ds = some xs →
      ∀ x ∈ xs, x.isOrdered = true
  | [], xs, h => by
      simp only [itemsToJson?, Option.some.injEq] at h
      simp [← h]
  | d :: ds, xs, h => by
      rw [itemsToJson?] at h
      obtain ⟨x, hx, h⟩ := Option.bind_eq_some_iff.mp h
      obtain ⟨rest, hrest, h⟩ := Option.bind_eq_some_iff.mp h
      obtain rfl := Option.some.inj h
      intro y hy
      rcases List.mem_cons.mp hy with rfl | hy
      · exact isOrdered_of_toJson? hx
      · exact isOrdered_of_itemsToJson? hrest y hy

theorem isOrdered_of_entriesToJson? :
    ∀ {es : List (Document × Document)} {ms : List (String × Json)},
      entriesToJson? es = some ms → ∀ m ∈ ms, m.2.isOrdered = true
  | [], ms, h => by
      simp only [entriesToJson?, Option.some.injEq] at h
      subst h
      simp
  | (k, d) :: es, ms, h => by
      simp only [entriesToJson?] at h
      split at h
      · obtain ⟨x, hx, h⟩ := Option.bind_eq_some_iff.mp h
        obtain ⟨rest, hrest, h⟩ := Option.bind_eq_some_iff.mp h
        obtain rfl := Option.some.inj h
        intro m hm
        rcases List.mem_cons.mp hm with rfl | hm
        · exact isOrdered_of_toJson? hx
        · exact isOrdered_of_entriesToJson? hrest m hm
      · simp at h

end

end Document

end Guardrail
