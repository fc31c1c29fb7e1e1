import Guardrail.Condition.Evaluation
import Guardrail.Document.Basic
import Guardrail.Proofs.Json.Numbers
import Guardrail.Proofs.Text.Search

/-!
# Tests of one field

A condition on a single field is a test of the value that the field has in a record, or of there
being none. What it means for a value to pass is said here without the table of a flattened record,
and with numbers that are equal only if they have one value. The condition goes wrong where it takes
one number for another, and nowhere else.
-/

namespace Guardrail

/-- What is asked of a field. -/
inductive Test where
  | equal (value : Scalar)
  | unequal (value : Scalar)
  | compares (order : Order) (bound : Float)
  | present
  | absent
  | contains (value : Scalar)
  | pattern (pattern : String)
  | size (order : SizeOrder) (count : Nat)

/-- Two values are the same, or numbers with the same value. -/
def Json.Equals : Json → Json → Prop
  | .number m, .number n => m.value? = n.value?
  | x, y => x = y

/-- Two values are numbers of which one is taken for the other. -/
def Json.MistakenFor : Json → Json → Prop
  | .number m, .number n => m.MistakenFor n
  | _, _ => False

namespace Test

/-- The condition that a field passes a test. -/
def on (field : String) : Test → Condition
  | equal v => .equals field v.toJson
  | unequal v => .differs field v.toJson
  | compares order bound => .compares order field bound
  | present => .present field
  | absent => .absent field
  | contains v => .contains field v.toJson
  | pattern p => .matches field p
  | size order count => .size field order count

/-- Whether a test is passed by the value of a field, if it has one. The bound of an order is a binary
fraction, and so is what is compared with it. -/
def Holds (value? : Option Json) : Test → Prop
  | equal v => ∃ x, value? = some x ∧ x.Equals v.toJson
  | unequal v => ∀ x, value? = some x → ¬x.Equals v.toJson
  | compares order bound =>
    ∃ x n, value? = some x ∧ x.numeric? = some n ∧ order.holds n bound = true
  | present => ∃ x, value? = some x ∧ x ≠ .null
  | absent => ∀ x, value? = some x → x = .null
  | contains v =>
    (∃ s part, value? = some (.text s) ∧ v = .text part ∧ part.toList <:+: s.toList) ∨
      ∃ xs, value? = some (.array xs) ∧ ∃ x ∈ xs, x.Equals v.toJson
  | pattern p => ∃ x s, value? = some x ∧ x.scalarText? = some s ∧ Pattern.test p s = true
  | size order count =>
    (∃ xs, value? = some (.array xs) ∧ order.holds xs.length count = true) ∨
      ∃ ms, value? = some (.object ms) ∧ order.holds ms.length count = true

/-- Whether a test takes one number for another, and that decides it. -/
def Mistakes (value? : Option Json) : Test → Prop
  | equal v | unequal v => ∃ x, value? = some x ∧ x.MistakenFor v.toJson
  | contains v =>
    ∃ xs, value? = some (.array xs) ∧ (∃ x ∈ xs, x.MistakenFor v.toJson) ∧
      ∀ x ∈ xs, ¬x.Equals v.toJson
  | _ => False

/-- The number that a test looks for, if it looks for one. -/
def numbers : Test → List Number
  | equal v | unequal v | contains v => v.toJson.numbers
  | _ => []

/-- Without a value a field differs from every value and is absent. It passes no other test. -/
theorem holds_none_iff {t : Test} : t.Holds none ↔ (∃ v, t = unequal v) ∨ t = absent := by
  cases t <;> simp [Holds]

end Test

/-! ## Values -/

theorem Scalar.toJson_eq_text_iff {v : Scalar} {t : String} :
    v.toJson = .text t ↔ v = .text t := by
  cases v with
  | number n =>
      cases n with
      | int n => simp [toJson]
      | fraction x =>
          rw [toJson, Json.ofFloat]
          split <;> simp
  | _ => simp [toJson]

theorem Scalar.toJson_cases (s : Scalar) :
    s.toJson = .null ∨ (∃ b, s.toJson = .bool b) ∨ (∃ n, s.toJson = .number n) ∨
      ∃ t, s.toJson = .text t := by
  cases s with
  | null => exact .inl rfl
  | bool b => exact .inr (.inl ⟨b, rfl⟩)
  | number n =>
      cases n with
      | int n => exact .inr (.inr (.inl ⟨.int n, rfl⟩))
      | fraction x =>
          rw [toJson, Json.ofFloat]
          split
          · exact .inr (.inr (.inl ⟨.fraction x, rfl⟩))
          · exact .inl rfl
  | text t => exact .inr (.inr (.inr ⟨t, rfl⟩))

namespace Json

theorem isNull_iff {x : Json} : x.isNull = true ↔ x = .null := by
  cases x <;> simp [isNull]

theorem Equals.not_mistakenFor {x y : Json} (h : x.Equals y) : ¬x.MistakenFor y := by
  cases x with
  | number m =>
      cases y with
      | number n => exact fun hmistaken => hmistaken.1 h
      | _ => exact id
  | _ => exact id

theorem MistakenFor.exists_numbers {x y : Json} (h : x.MistakenFor y) :
    ∃ m n, x = .number m ∧ y = .number n ∧ m.MistakenFor n := by
  cases x with
  | number m =>
      cases y with
      | number n => exact ⟨m, n, rfl, rfl, h⟩
      | _ => exact h.elim
  | _ => exact h.elim

theorem agrees_iff {x : Json} {s : Scalar} (hx : ∀ n ∈ x.numbers, n.IsProper)
    (hs : ∀ n ∈ s.toJson.numbers, n.IsProper) :
    x.agrees s.toJson = true ↔ x.Equals s.toJson ∨ x.MistakenFor s.toJson := by
  rcases s.toJson_cases with h | ⟨b, h⟩ | ⟨n, h⟩ | ⟨t, h⟩ <;> rw [h] at hs ⊢
  case inr.inr.inl =>
    cases x with
    | number m => exact Number.beq_toFloat_iff (hx m List.mem_cons_self) (hs n List.mem_cons_self)
    | _ => simp [agrees, same, Equals, MistakenFor]
  all_goals cases x <;> simp [agrees, same, Equals, MistakenFor]

theorem any_size?_iff {x : Json} {p : Nat → Bool} :
    x.size?.any p = true ↔
      (∃ xs, x = .array xs ∧ p xs.length = true) ∨
        ∃ ms, x = .object ms ∧ p ms.length = true := by
  cases x <;> simp [size?]

end Json

namespace Test

theorem containsValue_iff {x : Json} {s : Scalar} (hx : ∀ n ∈ x.numbers, n.IsProper)
    (hs : ∀ n ∈ s.toJson.numbers, n.IsProper) :
    x.containsValue s.toJson = true ↔
      (contains s).Holds (some x) ∨ (contains s).Mistakes (some x) := by
  cases x with
  | text t =>
      rcases s.toJson_cases with h | ⟨b, h⟩ | ⟨n, h⟩ | ⟨t, h⟩ <;>
        simp [← Scalar.toJson_eq_text_iff, h, Holds, Mistakes, Json.containsValue, Text.occurs_iff]
  | array xs =>
      have hagrees (y : Json) (hy : y ∈ xs) :
          y.agrees s.toJson = true ↔ y.Equals s.toJson ∨ y.MistakenFor s.toJson :=
        Json.agrees_iff (fun n hn => hx n (Json.mem_itemNumbers.mpr ⟨y, hy, hn⟩)) hs
      rw [Json.containsValue, List.any_eq_true]
      constructor
      · rintro ⟨y, hy, h⟩
        by_cases hequals : ∃ z ∈ xs, z.Equals s.toJson
        · exact .inl (.inr ⟨xs, rfl, hequals⟩)
        · push Not at hequals
          have hmistaken := ((hagrees y hy).mp h).resolve_left (hequals y hy)
          exact .inr ⟨xs, rfl, ⟨y, hy, hmistaken⟩, hequals⟩
      · rintro ((⟨t, part, ht, -⟩ | ⟨ys, hys, y, hy, h⟩) | ⟨ys, hys, ⟨y, hy, h⟩, -⟩)
        · simp at ht
        · obtain rfl : xs = ys := Json.array.inj (Option.some.inj hys)
          exact ⟨y, hy, (hagrees y hy).mpr (.inl h)⟩
        · obtain rfl : xs = ys := Json.array.inj (Option.some.inj hys)
          exact ⟨y, hy, (hagrees y hy).mpr (.inr h)⟩
  | _ => simp [Holds, Mistakes, Json.containsValue]

/-- An array that has an element taken for the value looked for, and not the value, lacks it. -/
theorem Mistakes.not_holds_contains {s : Scalar} {value? : Option Json}
    (h : (contains s).Mistakes value?) : ¬(contains s).Holds value? := by
  obtain ⟨xs, rfl, -, hequals⟩ := h
  rintro (⟨t, part, ht, -⟩ | ⟨ys, hys, y, hy, heq⟩)
  · simp at ht
  · obtain rfl : xs = ys := Json.array.inj (Option.some.inj hys)
    exact hequals y hy heq

/-- A mistake needs an integer of more than 53 bits, in the value or in the test. -/
theorem Mistakes.exists_long {t : Test} {value? : Option Json} (h : t.Mistakes value?) :
    ∃ x, value? = some x ∧
      ∃ a : Int, 2 ^ 53 < a.natAbs ∧ (.int a ∈ x.numbers ∨ .int a ∈ t.numbers) := by
  have hlong {x y : Json} {s : Scalar} (h : y.MistakenFor s.toJson)
      (hy : y.numbers ⊆ x.numbers) :
      ∃ a : Int, 2 ^ 53 < a.natAbs ∧ (.int a ∈ x.numbers ∨ .int a ∈ s.toJson.numbers) := by
    obtain ⟨m, n, rfl, hn, hmistaken⟩ := h.exists_numbers
    obtain ⟨a, ha, hgreat⟩ := hmistaken.exists_long
    refine ⟨a, hgreat, ?_⟩
    rcases ha with rfl | rfl
    · exact .inl (hy List.mem_cons_self)
    · rw [hn]
      exact .inr List.mem_cons_self
  cases t with
  | equal s | unequal s =>
      obtain ⟨x, rfl, hmistaken⟩ := h
      exact ⟨x, rfl, hlong hmistaken (List.Subset.refl _)⟩
  | contains s =>
      obtain ⟨xs, rfl, ⟨y, hy, hmistaken⟩, -⟩ := h
      exact ⟨.array xs, rfl, hlong hmistaken fun n hn => Json.mem_itemNumbers.mpr ⟨y, hy, hn⟩⟩
  | _ => exact h.elim

theorem not_mistakes_none {t : Test} : ¬t.Mistakes none := by
  intro h
  obtain ⟨x, hx, -⟩ := h.exists_long
  cases hx

variable {field : String} {data : FlatRecord} {view? : Option ResourceView}

/-- A condition on a field is a test of what the record's table says about it, unless the test
takes one number for another: it then is the opposite. -/
theorem holds_on_iff {t : Test} (ht : ∀ n ∈ t.numbers, n.IsProper)
    (hdata : ∀ x, data.get? field = some x → ∀ n ∈ x.numbers, n.IsProper) :
    (t.on field).holds data view? = true ↔
      (t.Holds (data.get? field) ↔ ¬t.Mistakes (data.get? field)) := by
  cases hv : data.get? field with
  | none => cases t <;> simp [on, Condition.holds, Holds, Mistakes, hv]
  | some x =>
      have hx := hdata x hv
      cases t with
      | equal s =>
          have hagrees := Json.agrees_iff hx ht
          have hnot := @Json.Equals.not_mistakenFor x s.toJson
          simp only [on, Condition.holds, Holds, Mistakes, hv, Option.any_some, Option.some.injEq,
            exists_eq_left', hagrees]
          tauto
      | unequal s =>
          have hagrees := Json.agrees_iff hx ht
          have hnot := @Json.Equals.not_mistakenFor x s.toJson
          simp only [on, Condition.holds, Holds, Mistakes, hv, Option.any_some, Option.some.injEq,
            exists_eq_left', forall_eq', Bool.not_eq_true', ← Bool.not_eq_true, hagrees]
          tauto
      | contains s =>
          have hnot := @Mistakes.not_holds_contains s (some x)
          simp only [on, Condition.holds, hv, Option.any_some, containsValue_iff hx ht]
          grind
      | compares order bound => simp [on, Condition.holds, Holds, Mistakes, hv, Option.any_eq_true]
      | present => simp [on, Condition.holds, Holds, Mistakes, hv, ← Json.isNull_iff]
      | absent => simp [on, Condition.holds, Holds, Mistakes, hv, Json.isNull_iff]
      | pattern p => simp [on, Condition.holds, Holds, Mistakes, hv, Option.any_eq_true]
      | size order count => simp [on, Condition.holds, Holds, Mistakes, hv, Json.any_size?_iff]

end Test

end Guardrail
