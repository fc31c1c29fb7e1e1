import Guardrail.Proofs.Json.Order
import Guardrail.Proofs.Lists

/-!
# Values as documents

A value that can be written down is what its document stands for: no fraction in it is infinite or a
non-number, and every object lists its names in ascending order.
-/

namespace Guardrail

namespace Json

mutual

/-- Whether no fraction in a value is infinite or a non-number. -/
def isFinite : Json → Bool
  | .number (.fraction x) => x.isFinite
  | .array xs => itemsFinite xs
  | .object ms => membersFinite ms
  | _ => true

/-- `isFinite` for every element of an array. -/
def itemsFinite : List Json → Bool
  | [] => true
  | x :: xs => isFinite x && itemsFinite xs

/-- `isFinite` for every member of an object. -/
def membersFinite : List (String × Json) → Bool
  | [] => true
  | (_, x) :: ms => isFinite x && membersFinite ms

end

/-- A value that can be written down. -/
structure IsProper (x : Json) : Prop where
  ordered : x.isOrdered = true
  finite : x.isFinite = true

theorem itemsFinite_iff {xs : List Json} :
    itemsFinite xs = true ↔ ∀ x ∈ xs, x.isFinite = true := by
  induction xs with
  | nil => simp [itemsFinite]
  | cons x xs ih => simp [itemsFinite, ih]

theorem membersFinite_iff {ms : List (String × Json)} :
    membersFinite ms = true ↔ ∀ m ∈ ms, m.2.isFinite = true := by
  induction ms with
  | nil => simp [membersFinite]
  | cons m ms ih => simp [membersFinite, ih]

theorem isProper_array {xs : List Json} : (Json.array xs).IsProper ↔ ∀ x ∈ xs, x.IsProper := by
  constructor
  · intro h x hx
    exact ⟨namesMeet_array.mp h.ordered x hx, itemsFinite_iff.mp h.finite x hx⟩
  · intro h
    exact ⟨namesMeet_array.mpr fun x hx => (h x hx).ordered,
      itemsFinite_iff.mpr fun x hx => (h x hx).finite⟩

theorem isProper_object {ms : List (String × Json)} :
    (Json.object ms).IsProper ↔ ms.Pairwise (·.1 < ·.1) ∧ ∀ m ∈ ms, m.2.IsProper := by
  constructor
  · intro h
    obtain ⟨hp, ho⟩ := isOrdered_object.mp h.ordered
    exact ⟨hp, fun m hm => ⟨ho m hm, membersFinite_iff.mp h.finite m hm⟩⟩
  · rintro ⟨hp, h⟩
    exact ⟨isOrdered_object.mpr ⟨hp, fun m hm => (h m hm).ordered⟩,
      membersFinite_iff.mpr fun m hm => (h m hm).finite⟩

theorem IsProper.of_member? {x y : Json} {name : String} (hx : x.IsProper)
    (hy : x.member? name = some y) : y.IsProper := by
  cases x with
  | object ms =>
      obtain ⟨front, back, rfl, -⟩ := List.lookup_eq_some_iff.mp hy
      exact (isProper_object.mp hx).2 (name, y) (by simp)
  | _ => cases hy

@[simp] theorem isProper_text (s : String) : (text s).IsProper :=
  ⟨rfl, rfl⟩

@[simp] theorem isProper_bool (b : Bool) : (bool b).IsProper :=
  ⟨rfl, rfl⟩

@[simp] theorem isProper_ofNat (n : Nat) : (ofNat n).IsProper :=
  ⟨rfl, rfl⟩

@[simp] theorem isProper_ofFloat {x : Float} : (ofFloat x).IsProper := by
  unfold ofFloat
  split
  · rename_i h
    exact ⟨rfl, h⟩
  · exact ⟨rfl, rfl⟩

theorem mem_foldl_putMember {ms found : List (String × Json)} {m : String × Json}
    (h : m ∈ ms.foldl (fun ms m => putMember m.1 m.2 ms) found) : m ∈ found ∨ m ∈ ms := by
  induction ms generalizing found with
  | nil => exact .inl h
  | cons m' ms ih =>
      rcases ih h with hm | hm
      · rcases mem_putMember hm with rfl | hm
        · exact .inr List.mem_cons_self
        · exact .inl hm
      · exact .inr (List.mem_cons_of_mem _ hm)

theorem isProper_ofMembers {ms : List (String × Json)} (h : ∀ m ∈ ms, m.2.IsProper) :
    (ofMembers ms).IsProper where
  ordered := isOrdered_ofMembers fun m hm => (h m hm).ordered
  finite := by
    refine membersFinite_iff.mpr fun m hm => ?_
    rcases mem_foldl_putMember hm with hm | hm
    · cases hm
    · exact (h m hm).finite

/-! ## Reading a document back -/

theorem putMember_of_lt {name : String} {value : Json} {ms : List (String × Json)}
    (h : ∀ m ∈ ms, m.1 < name) : putMember name value ms = ms ++ [(name, value)] := by
  induction ms with
  | nil => rfl
  | cons m ms ih =>
      have hlt := h m List.mem_cons_self
      have hnot : ¬name < m.1 := fun hgt => String.lt_irrefl _ (String.lt_trans hlt hgt)
      have hne : name ≠ m.1 := fun he => String.lt_irrefl _ (he ▸ hlt)
      rw [putMember, if_neg hnot, if_neg hne, ih fun m' hm' => h m' (List.mem_cons_of_mem _ hm')]
      rfl

theorem foldl_putMember {ms found : List (String × Json)}
    (h : (found ++ ms).Pairwise (·.1 < ·.1)) :
    ms.foldl (fun ms m => putMember m.1 m.2 ms) found = found ++ ms := by
  induction ms generalizing found with
  | nil => simp
  | cons m ms ih =>
      have hlt : ∀ m' ∈ found, m'.1 < m.1 :=
        fun m' hm' => (List.pairwise_append.mp h).2.2 m' hm' m List.mem_cons_self
      rw [List.foldl_cons, putMember_of_lt hlt, ih (by simpa using h)]
      simp

theorem ofMembers_of_pairwise {ms : List (String × Json)} (h : ms.Pairwise (·.1 < ·.1)) :
    ofMembers ms = .object ms := by
  have hfold : ms.foldl (fun ms m => putMember m.1 m.2 ms) [] = ms := foldl_putMember h
  exact congrArg object hfold

theorem lookup_putMember (name k : String) (value : Json) (ms : List (String × Json)) :
    (putMember k value ms).lookup name = if name = k then some value else ms.lookup name := by
  induction ms with
  | nil => exact lookup_cons_eq name k value []
  | cons m ms ih =>
      obtain ⟨k', x⟩ := m
      by_cases hlt : k < k'
      · rw [putMember, if_pos hlt, lookup_cons_eq]
      · by_cases heq : k = k'
        · subst heq
          rw [putMember, if_neg hlt, if_pos rfl, lookup_cons_eq, lookup_cons_eq]
          by_cases he : name = k <;> simp [he]
        · rw [putMember, if_neg hlt, if_neg heq, lookup_cons_eq, lookup_cons_eq, ih]
          by_cases he : name = k'
          · simp [he, Ne.symm heq]
          · simp [he]

theorem lookup_foldl_putMember {ms : List (String × Json)} (h : (ms.map Prod.fst).Nodup)
    (found : List (String × Json)) (name : String) :
    (ms.foldl (fun ms m => putMember m.1 m.2 ms) found).lookup name =
      (ms.lookup name).or (found.lookup name) := by
  induction ms generalizing found with
  | nil => rfl
  | cons m ms ih =>
      obtain ⟨k, x⟩ := m
      obtain ⟨hm, hms⟩ := List.nodup_cons.mp h
      rw [List.foldl_cons, ih hms, lookup_putMember, lookup_cons_eq]
      by_cases he : name = k
      · subst he
        simp [lookup_eq_none_of_notMem hm]
      · simp [he]

/-- An object has the members that it is built from. -/
theorem member?_ofMembers {ms : List (String × Json)} (h : (ms.map Prod.fst).Nodup)
    (name : String) : (ofMembers ms).member? name = ms.lookup name :=
  (lookup_foldl_putMember h [] name).trans Option.or_none

theorem lookup_of_mem {ms : List (String × Json)} (h : (ms.map Prod.fst).Nodup)
    {m : String × Json} (hm : m ∈ ms) : ms.lookup m.1 = some m.2 := by
  induction ms with
  | nil => cases hm
  | cons m' ms ih =>
      obtain ⟨k, x⟩ := m'
      obtain ⟨hk, hms⟩ := List.nodup_cons.mp h
      rw [lookup_cons_eq]
      rcases List.mem_cons.mp hm with rfl | hmem
      · rw [if_pos rfl]
      · have hne : m.1 ≠ k := by
          rintro rfl
          exact hk (List.mem_map.mpr ⟨m, hmem, rfl⟩)
        rw [if_neg hne, ih hms hmem]

/-- In an object a member is what its name is looked up as. -/
theorem mem_iff_lookup {ms : List (String × Json)} (h : ms.Pairwise (·.1 < ·.1)) {name : String}
    {x : Json} : (name, x) ∈ ms ↔ ms.lookup name = some x := by
  constructor
  · intro hm
    have hdistinct : (ms.map Prod.fst).Nodup :=
      List.pairwise_map.mpr (h.imp String.ne_of_lt)
    exact lookup_of_mem hdistinct hm
  · intro hlookup
    obtain ⟨front, back, rfl, -⟩ := List.lookup_eq_some_iff.mp hlookup
    simp

theorem member?_ofMembers_of_mem {ms : List (String × Json)} (h : (ms.map Prod.fst).Nodup)
    {m : String × Json} (hm : m ∈ ms) : (ofMembers ms).member? m.1 = some m.2 := by
  rw [member?_ofMembers h, lookup_of_mem h hm]

mutual

/-- A value that can be written down is read back as it was. -/
theorem toJson?_toDocument : ∀ {x : Json}, x.IsProper → x.toDocument.toJson? = some x
  | .null, _ => rfl
  | .bool _, _ => rfl
  | .number (.int _), _ => rfl
  | .number (.fraction x), h => by
      have hx : x.isFinite = true := h.finite
      simp [toDocument, Document.toJson?, Scalar.toJson, ofFloat, hx]
  | .text _, _ => rfl
  | .array xs, h => by
      simp [toDocument, Document.toJson?, itemsToJson?_itemsToDocument (isProper_array.mp h)]
  | .object ms, h => by
      obtain ⟨hp, h⟩ := isProper_object.mp h
      simp [toDocument, Document.toJson?, entriesToJson?_membersToDocument h,
        ofMembers_of_pairwise hp]

theorem itemsToJson?_itemsToDocument : ∀ {xs : List Json}, (∀ x ∈ xs, x.IsProper) →
    Document.itemsToJson? (itemsToDocument xs) = some xs
  | [], _ => rfl
  | x :: xs, h => by
      obtain ⟨hx, hxs⟩ := List.forall_mem_cons.mp h
      simp [itemsToDocument, Document.itemsToJson?, toJson?_toDocument hx,
        itemsToJson?_itemsToDocument hxs]

theorem entriesToJson?_membersToDocument : ∀ {ms : List (String × Json)},
    (∀ m ∈ ms, m.2.IsProper) → Document.entriesToJson? (membersToDocument ms) = some ms
  | [], _ => rfl
  | (name, x) :: ms, h => by
      obtain ⟨hx, hms⟩ := List.forall_mem_cons.mp h
      simp [membersToDocument, Document.entriesToJson?, toJson?_toDocument hx,
        entriesToJson?_membersToDocument hms]

end

end Json

end Guardrail
