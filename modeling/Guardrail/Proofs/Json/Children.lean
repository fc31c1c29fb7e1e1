import Guardrail.Document.Basic

/-!
# Children of a value

The values inside an object or array, each with its name; the elements of an array are named by
their index in decimal digits.
-/

namespace Guardrail

namespace Decimal

theorem toList_digitText (n : Nat) : (digitText n).toList = Nat.toDigits 10 n := by
  simp [digitText]

theorem digitText_injective : Function.Injective digitText := by
  intro m n h
  have hd : Nat.toDigits 10 m = Nat.toDigits 10 n := by
    rw [← toList_digitText, ← toList_digitText, h]
  rw [← Nat.ofDigitChars_ten_toDigits (n := m), hd, Nat.ofDigitChars_ten_toDigits]

theorem digitText_ne_empty (n : Nat) : digitText n ≠ "" := by
  intro h
  have hl := toList_digitText n
  rw [h] at hl
  exact Nat.toDigits_ne_nil hl.symm

theorem isDigit_of_mem_digitText {n : Nat} {c : Char} (h : c ∈ (digitText n).toList) :
    c.isDigit = true := by
  rw [toList_digitText] at h
  exact Nat.isDigit_of_mem_toDigits (by decide) (by decide) h

theorem dot_not_mem_digitText (n : Nat) : '.' ∉ (digitText n).toList := by
  intro h
  have hd := isDigit_of_mem_digitText h
  simp at hd

end Decimal

namespace Json

/-! ## Children -/

/-- The elements of an array, named by their index from `index` on. -/
def numbered (index : Nat) (xs : List Json) : List (String × Json) :=
  (xs.zipIdx index).map fun (x, i) => (Decimal.digitText i, x)

/-- The values directly inside a value, with their names. -/
def children : Json → List (String × Json)
  | .object ms => ms
  | .array xs => numbered 0 xs
  | _ => []

/-- The value directly inside a value that has a name. -/
def child? (x : Json) (name : String) : Option Json :=
  x.children.lookup name

theorem child?_of_member? {x y : Json} {name : String} (h : x.member? name = some y) :
    x.child? name = some y := by
  cases x with
  | object ms => exact h
  | _ => simp [member?] at h

theorem member?_eq_child? {x y : Json} {name : String} (h : x.member? name = some y)
    (other : String) : x.child? other = x.member? other := by
  cases x with
  | object ms => rfl
  | _ => simp [member?] at h

theorem mem_children_of_child? {x y : Json} {name : String} (h : x.child? name = some y) :
    (name, y) ∈ x.children := by
  obtain ⟨front, back, he, -⟩ := List.lookup_eq_some_iff.mp h
  simp [he]

theorem numbered_cons (index : Nat) (x : Json) (xs : List Json) :
    numbered index (x :: xs) = (Decimal.digitText index, x) :: numbered (index + 1) xs := by
  simp [numbered]

theorem mem_numbered {index : Nat} {xs : List Json} {m : String × Json}
    (h : m ∈ numbered index xs) : ∃ i, index ≤ i ∧ m.1 = Decimal.digitText i ∧ m.2 ∈ xs := by
  obtain ⟨⟨x, i⟩, hx, rfl⟩ := List.mem_map.mp h
  obtain ⟨hi, -, hx⟩ := List.mem_zipIdx hx
  exact ⟨i, hi, rfl, hx ▸ List.getElem_mem _⟩

theorem pairwise_numbered (index : Nat) (xs : List Json) :
    ((numbered index xs).map Prod.fst).Pairwise (· ≠ ·) := by
  induction xs generalizing index with
  | nil => simp [numbered]
  | cons x xs ih =>
      rw [numbered_cons, List.map_cons, List.pairwise_cons]
      refine ⟨?_, ih (index + 1)⟩
      intro name hn he
      obtain ⟨m, hm, rfl⟩ := List.mem_map.mp hn
      obtain ⟨i, hi, hname, -⟩ := mem_numbered hm
      have := Decimal.digitText_injective (he.trans hname)
      omega

/-! ## Conditions on the names of objects -/

mutual

/-- Whether the names of every object in a value meet a condition. -/
def namesMeet (p : List String → Bool) : Json → Bool
  | .array xs => itemNamesMeet p xs
  | .object ms => p (ms.map Prod.fst) && memberNamesMeet p ms
  | _ => true

/-- `namesMeet` for every element of an array. -/
def itemNamesMeet (p : List String → Bool) : List Json → Bool
  | [] => true
  | x :: xs => namesMeet p x && itemNamesMeet p xs

/-- `namesMeet` for every member of an object. -/
def memberNamesMeet (p : List String → Bool) : List (String × Json) → Bool
  | [] => true
  | (_, x) :: ms => namesMeet p x && memberNamesMeet p ms

end

/-- Whether no object has an empty name or one with a dot. -/
def hasPlainNames (x : Json) : Bool :=
  x.namesMeet fun names => names.all fun name => name ≠ "" && '.' ∉ name.toList

variable {p : List String → Bool}

theorem itemNamesMeet_iff {xs : List Json} :
    itemNamesMeet p xs = true ↔ ∀ x ∈ xs, x.namesMeet p = true := by
  induction xs with
  | nil => simp [itemNamesMeet]
  | cons x xs ih => simp [itemNamesMeet, ih]

theorem memberNamesMeet_iff {ms : List (String × Json)} :
    memberNamesMeet p ms = true ↔ ∀ m ∈ ms, m.2.namesMeet p = true := by
  induction ms with
  | nil => simp [memberNamesMeet]
  | cons m ms ih => simp [memberNamesMeet, ih]

theorem namesMeet_object {ms : List (String × Json)} :
    (Json.object ms).namesMeet p = true ↔
      p (ms.map Prod.fst) = true ∧ ∀ m ∈ ms, m.2.namesMeet p = true := by
  simp [namesMeet, memberNamesMeet_iff]

theorem namesMeet_array {xs : List Json} :
    (Json.array xs).namesMeet p = true ↔ ∀ x ∈ xs, x.namesMeet p = true := by
  simp [namesMeet, itemNamesMeet_iff]

theorem namesMeet_of_mem_children {x : Json} {m : String × Json} (h : x.namesMeet p = true)
    (hm : m ∈ x.children) : m.2.namesMeet p = true := by
  cases x with
  | object ms => exact (namesMeet_object.mp h).2 m hm
  | array xs =>
      obtain ⟨-, -, -, hx⟩ := mem_numbered hm
      exact namesMeet_array.mp h _ hx
  | _ => simp [children] at hm

/-! ## Plain names -/

theorem plain_of_mem_children {x : Json} {m : String × Json} (h : x.hasPlainNames = true)
    (hm : m ∈ x.children) : m.1 ≠ "" ∧ '.' ∉ m.1.toList := by
  cases x with
  | object ms =>
      have hp := (namesMeet_object.mp h).1
      simp only [List.all_eq_true, Bool.and_eq_true, decide_eq_true_eq] at hp
      exact hp m.1 (List.mem_map_of_mem hm)
  | array xs =>
      obtain ⟨i, -, hi, -⟩ := mem_numbered hm
      exact hi ▸ ⟨Decimal.digitText_ne_empty i, Decimal.dot_not_mem_digitText i⟩
  | _ => simp [children] at hm

theorem child?_eq_none_of_plain {x : Json} (h : x.hasPlainNames = true) {name : String}
    (hn : name = "" ∨ '.' ∈ name.toList) : x.child? name = none := by
  rw [child?, List.lookup_eq_none_iff]
  intro m hm
  have hp := plain_of_mem_children h hm
  simp only [bne_iff_ne]
  rintro rfl
  exact hn.elim hp.1 hp.2

end Json

end Guardrail
