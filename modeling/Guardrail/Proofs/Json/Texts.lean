import Guardrail.Json.Printer
import Guardrail.Proofs.Json.Children

/-!
# Texts of values

The compact text of a value is never empty: every number has a digit or is written as a word, and
all else begins with a mark or is a word.
-/

namespace Guardrail

namespace Decimal.Format

/-! ## Decimals -/

variable (f : Format) (d : Digits)

theorem positional_ne_empty : f.positional d ≠ "" := by
  have hdigits := digitText_ne_empty d.digits
  simp only [positional]
  split
  · simp [hdigits]
  · split
    · simp [pointed]
    · simp

theorem scientific_ne_empty : f.scientific d ≠ "" := by
  have hdigits := digitText_ne_empty d.digits
  simp only [scientific]
  split
  · simp [hdigits]
  · simp [pointed]

theorem magnitude_ne_empty : f.magnitude d ≠ "" := by
  rw [magnitude]
  split
  · exact f.positional_ne_empty d
  · exact f.scientific_ne_empty d

theorem render?_ne_empty (x : Float) : f.render? x ≠ some "" := by
  intro h
  obtain ⟨b, -, hb⟩ := Option.map_eq_some_iff.mp h
  have htext : (if b.mantissa = 0 then "0" ++ f.wholeMark else f.magnitude (shortest b)) ≠ "" := by
    split
    · simp
    · exact f.magnitude_ne_empty _
  dsimp only at hb
  split at hb
  · simp at hb
  · exact htext hb

end Decimal.Format

/-! ## Values -/

theorem Number.toText_ne_empty (n : Number) : n.toText ≠ "" := by
  cases n with
  | int n =>
      cases n with
      | ofNat n => exact Decimal.digitText_ne_empty n
      | negSucc n => simp [toText, Decimal.intText]
  | fraction x =>
      rw [toText]
      cases hx : Decimal.plain.render? x with
      | none => decide
      | some s =>
          rintro rfl
          exact Decimal.plain.render?_ne_empty x hx

theorem Json.render_ne_empty (x : Json) : x.render ≠ "" := by
  cases x with
  | null => simp [render]
  | bool b => cases b <;> simp [render]
  | number n => exact n.toText_ne_empty
  | text s => simp [render, quote]
  | array xs => simp [render]
  | object ms => simp [render]

end Guardrail
