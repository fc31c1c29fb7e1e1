import Guardrail.Condition.Evaluation
import Guardrail.Proofs.Decimal.Nearest

/-!
# Comparing integers

The conditions on a value compare numbers as binary fractions. Two integers of a record are thus
taken for the same when one binary fraction is the nearest to both, which below 54 bits means that
they are the same.
-/

namespace Guardrail

open Decimal

/-- The conditions that compare a field with `b` find what they look for in a field with the value
`a`, and those that exclude `b` do not, exactly if `same`. -/
structure Condition.ComparesAs (same : Prop) (data : FlatRecord) (view? : Option ResourceView)
    (a b : Int) : Prop where
  equals : ∀ field, data.get? field = some (.ofInt a) →
    ((Condition.equals field (.ofInt b)).holds data view? = true ↔ same)
  oneOf : ∀ field, data.get? field = some (.ofInt a) →
    ((Condition.oneOf field [.ofInt b]).holds data view? = true ↔ same)
  contains : ∀ field, data.get? field = some (.array [.ofInt a]) →
    ((Condition.contains field (.ofInt b)).holds data view? = true ↔ same)
  differs : ∀ field, data.get? field = some (.ofInt a) →
    ((Condition.differs field (.ofInt b)).holds data view? = true ↔ ¬same)
  noneOf : ∀ field, data.get? field = some (.ofInt a) →
    ((Condition.noneOf field [.ofInt b]).holds data view? = true ↔ ¬same)

theorem Json.agrees_ofInt {a b : Int} (ha : IsWord a) (hb : IsWord b) :
    (Json.ofInt a).agrees (.ofInt b) = true ↔ nearestInt a = nearestInt b :=
  beq_ofInt (natAbs_lt_of_isWord ha) (natAbs_lt_of_isWord hb)

namespace Condition

variable {same : Prop} {data : FlatRecord} {view? : Option ResourceView} {a b : Int}

theorem comparesAs_of_agrees (h : (Json.ofInt a).agrees (.ofInt b) = true ↔ same) :
    ComparesAs same data view? a b where
  equals field hfield := by simp [holds, hfield, h]
  oneOf field hfield := by simp [holds, hfield, h]
  contains field hfield := by simp [holds, hfield, Json.containsValue, h]
  differs field hfield := by simp [holds, hfield, ← h]
  noneOf field hfield := by simp [holds, hfield, ← h]

/-- The record with an integer as its only member. -/
def soleField (a : Int) : Json :=
  .object [("id", .ofInt a)]

theorem get?_soleField (a : Int) :
    (FlatRecord.ofJson FlatRecord.defaultLevels (soleField a)).get? "id" = some (.ofInt a) := by
  rfl

/-- Integers are compared by the binary fractions nearest to them. The comparison is exact for two
integers just where they do not share theirs, which they never do if one of them has at most 53
bits. -/
theorem comparesAs_of_isWord (ha : IsWord a) (hb : IsWord b) :
    (∀ data view?, ComparesAs (nearestInt a = nearestInt b) data view? a b) ∧
      ((∀ levels record view?, ComparesAs (a = b) (.ofJson levels record) view? a b) ↔
        (nearestInt a = nearestInt b → a = b)) ∧
      (a.natAbs < 2 ^ 53 ∨ b.natAbs < 2 ^ 53 → ∀ data view?, ComparesAs (a = b) data view? a b) := by
  have hagrees := Json.agrees_ofInt ha hb
  have hexact (h : nearestInt a = nearestInt b → a = b) :
      (Json.ofInt a).agrees (.ofInt b) = true ↔ a = b :=
    hagrees.trans ⟨h, congrArg nearestInt⟩
  refine ⟨fun _ _ => comparesAs_of_agrees hagrees, ⟨fun h hnear => ?_, fun h _ _ _ => ?_⟩, ?_⟩
  · -- the record with the one field is compared in both ways
    have hfield := get?_soleField a
    have hequals : (equals "id" (.ofInt b)).holds _ none = true :=
      ((comparesAs_of_agrees hagrees).equals "id" hfield).mpr hnear
    exact ((h FlatRecord.defaultLevels (soleField a) none).equals "id" hfield).mp hequals
  · exact comparesAs_of_agrees (hexact h)
  · intro hshort _ _
    refine comparesAs_of_agrees (hexact fun hnear => ?_)
    rcases hshort with hshort | hshort
    · exact eq_of_nearestInt_eq hshort hnear
    · exact (eq_of_nearestInt_eq hshort hnear.symm).symm

/-- The ends of the range, and an integer of 53 bits beside one of 64. -/
theorem comparesAs_at_ends : IsWord (-2 ^ 63) ∧ IsWord (2 ^ 64 - 1) ∧ IsWord 123456789012 ∧
    (∀ data view?, ComparesAs False data view? (-2 ^ 63) (2 ^ 64 - 1)) ∧
    ∀ data view?, ComparesAs False data view? 123456789012 (2 ^ 64 - 1) := by
  have hleast : IsWord (-2 ^ 63) := ⟨by decide, by decide⟩
  have hgreatest : IsWord (2 ^ 64 - 1) := ⟨by decide, by decide⟩
  have hshort : IsWord 123456789012 := ⟨by decide, by decide⟩
  refine ⟨hleast, hgreatest, hshort, fun data view? => ?_, fun data view? => ?_⟩
  · have hapart : (nearestInt (-2 ^ 63) = nearestInt (2 ^ 64 - 1)) = False :=
      eq_false (by decide +kernel)
    simpa only [hapart] using (comparesAs_of_isWord hleast hgreatest).1 data view?
  · have hapart : ((123456789012 : Int) = 2 ^ 64 - 1) = False := eq_false (by decide)
    simpa only [hapart] using
      (comparesAs_of_isWord hshort hgreatest).2.2 (.inl (by decide)) data view?

/-- Two account numbers in a row are taken for one. -/
theorem equals_of_successor :
    ¬∀ a b : Int, IsWord a → IsWord b → ∀ levels record view?,
      ComparesAs (a = b) (.ofJson levels record) view? a b := by
  intro h
  have hgreater : IsWord (2 ^ 53 + 1) := ⟨by decide, by decide⟩
  have hless : IsWord (2 ^ 53) := ⟨by decide, by decide⟩
  have hnear : nearestInt (2 ^ 53 + 1) = nearestInt (2 ^ 53) := by decide +kernel
  have hfield := get?_soleField (2 ^ 53 + 1)
  have htaken : (equals "id" (.ofInt (2 ^ 53))).holds _ none = true :=
    ((comparesAs_of_agrees (Json.agrees_ofInt hgreater hless)).equals "id" hfield).mpr hnear
  have hclaimed := (h _ _ hgreater hless _ (soleField (2 ^ 53 + 1)) none).equals "id" hfield
  exact absurd (hclaimed.mp htaken) (by decide)

end Condition

end Guardrail
