/-!
# Sets of names

A set of names is a list in ascending order that holds each name once.
-/

namespace Guardrail.Text

/-- The set with one more name. -/
def insertName (name : String) : List String → List String
  | [] => [name]
  | n :: ns =>
    if name < n then name :: n :: ns
    else if name = n then n :: ns
    else n :: insertName name ns

/-- The set of the names in a list. -/
def nameSet (names : List String) : List String :=
  names.foldl (fun set name => insertName name set) []

@[simp] theorem mem_insertName {name n : String} {ns : List String} :
    n ∈ insertName name ns ↔ n = name ∨ n ∈ ns := by
  induction ns with
  | nil => simp [insertName]
  | cons m ms ih =>
      unfold insertName
      split
      · simp
      · split
        · simp_all
        · simp [ih, or_left_comm]

theorem mem_foldl_insertName {n : String} {names set : List String} :
    n ∈ names.foldl (fun set name => insertName name set) set ↔ n ∈ set ∨ n ∈ names := by
  induction names generalizing set with
  | nil => simp
  | cons name names ih =>
      rw [List.foldl_cons, ih, mem_insertName, List.mem_cons, or_assoc]
      exact or_left_comm

@[simp] theorem mem_nameSet {n : String} {names : List String} : n ∈ nameSet names ↔ n ∈ names := by
  simp [nameSet, mem_foldl_insertName]

theorem pairwise_insertName {ns : List String} (h : ns.Pairwise (· < ·)) (name : String) :
    (insertName name ns).Pairwise (· < ·) := by
  induction ns with
  | nil => exact List.pairwise_singleton _ name
  | cons n ns ih =>
      obtain ⟨hn, hns⟩ := List.pairwise_cons.mp h
      unfold insertName
      split
      next hlt =>
        exact List.pairwise_cons.mpr ⟨List.forall_mem_cons.mpr
          ⟨hlt, fun m hm => String.lt_trans hlt (hn m hm)⟩, h⟩
      next hnlt =>
        split
        · exact h
        next hne =>
          have hlt : n < name :=
            String.not_le.mp fun hle => hne (String.le_antisymm hle (String.not_lt.mp hnlt))
          refine List.pairwise_cons.mpr ⟨fun m hm => ?_, ih hns⟩
          rcases mem_insertName.mp hm with rfl | hm
          · exact hlt
          · exact hn m hm

theorem pairwise_nameSet (names : List String) : (nameSet names).Pairwise (· < ·) := by
  have hfold : ∀ set : List String, set.Pairwise (· < ·) →
      (names.foldl (fun set name => insertName name set) set).Pairwise (· < ·) := by
    induction names with
    | nil => exact fun set h => h
    | cons name names ih => exact fun set h => ih _ (pairwise_insertName h name)
  exact hfold [] List.Pairwise.nil

end Guardrail.Text
