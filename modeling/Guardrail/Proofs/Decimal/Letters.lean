import Guardrail.Decimal.Reading
import Guardrail.Proofs.Json.Numerals
import Guardrail.Proofs.Text.Spelling

/-!
# Letters in decimals

The letters of a number, be it those of `inf` and `nan` or the `e` of an exponent, may be large or
small.
-/

namespace Guardrail.Decimal

open Text (apply_toLower)

/-! ## Digits, signs and marks -/

theorem isDigit_eq_false_of_isAlpha {c : Char} (h : c.isAlpha = true) : c.isDigit = false := by
  have hc := Text.toNat_bounds_of_isAlpha h
  simp only [Char.isDigit, Bool.and_eq_false_iff, decide_eq_false_iff_not, ge_iff_le,
    UInt32.le_iff_toNat_le, Char.reduceVal, UInt32.reduceToNat, Char.toNat_val]
  omega

theorem isDigit_toLower (c : Char) : c.toLower.isDigit = c.isDigit :=
  apply_toLower (fun _ => isDigit_eq_false_of_isAlpha) c

theorem toLower_of_isDigit {c : Char} (h : c.isDigit = true) : c.toLower = c := by
  refine Text.toLower_of_isAlpha_eq_false (Bool.eq_false_iff.mpr fun halpha => ?_)
  rw [isDigit_eq_false_of_isAlpha halpha] at h
  cases h

theorem map_toLower_of_isDigit {ds : List Char} (h : ∀ c ∈ ds, c.isDigit = true) :
    ds.map Char.toLower = ds :=
  (List.map_congr_left fun c hc => toLower_of_isDigit (h c hc)).trans (List.map_id ds)

theorem toLower_eq_iff {c mark : Char} (hmark : mark.isAlpha = false) :
    c.toLower = mark ↔ c = mark := by
  have h := apply_toLower (p := (· == mark)) (fun d hd => ?_) c
  · simpa using congrArg (· = true) h
  · refine beq_eq_false_iff_ne.mpr ?_
    rintro rfl
    rw [hmark] at hd
    cases hd

theorem isExponentMark_toLower (c : Char) :
    c.toLower = 'e' ∨ c.toLower = 'E' ↔ c = 'e' ∨ c = 'E' := by
  have hc := Text.toNat_toLower c
  split at hc
  next hupper =>
    rw [Text.isUpper_iff] at hupper
    simp only [← Char.toNat_inj, hc, Char.reduceToNat]
    omega
  next => rw [Char.toNat_inj.mp hc]

theorem spanDigits_map_toLower (cs : List Char) :
    spanDigits (cs.map Char.toLower) =
      ((spanDigits cs).1, (spanDigits cs).2.map Char.toLower) := by
  have hdigit : Char.isDigit ∘ Char.toLower = Char.isDigit := funext isDigit_toLower
  simp only [Number.spanDigits_eq, List.takeWhile_map, List.dropWhile_map, hdigit]
  rw [map_toLower_of_isDigit (Text.forall_mem_takeWhile _ cs)]

/-- The sign in front of a number, and the rest. -/
def splitSign : List Char → Bool × List Char
  | '-' :: cs => (true, cs)
  | '+' :: cs => (false, cs)
  | cs => (false, cs)

theorem splitSign_cons (c : Char) (cs : List Char) :
    splitSign (c :: cs) =
      if c = '-' then (true, cs) else if c = '+' then (false, cs) else (false, c :: cs) := by
  unfold splitSign
  split
  · rename_i h
    obtain ⟨rfl, rfl⟩ := List.cons.inj h
    rfl
  · rename_i h
    obtain ⟨rfl, rfl⟩ := List.cons.inj h
    rfl
  · rename_i hminus hplus
    have hc : c ≠ '-' := fun h => hminus cs (by rw [h])
    have hc' : c ≠ '+' := fun h => hplus cs (by rw [h])
    rw [if_neg hc, if_neg hc']

theorem splitSign_map_toLower (cs : List Char) :
    splitSign (cs.map Char.toLower) = ((splitSign cs).1, (splitSign cs).2.map Char.toLower) := by
  cases cs with
  | nil => rfl
  | cons c cs =>
      have hminus : c.toLower = '-' ↔ c = '-' := toLower_eq_iff (by decide)
      have hplus : c.toLower = '+' ↔ c = '+' := toLower_eq_iff (by decide)
      simp only [List.map_cons, splitSign_cons, hminus, hplus]
      split_ifs <;> rfl

/-- The digits behind a point and the rest; without a point, all of it is rest. -/
def splitPlaces (cs : List Char) : List Char × List Char :=
  match cs with
  | '.' :: more => spanDigits more
  | _ => ([], cs)

theorem splitPlaces_cons (c : Char) (cs : List Char) :
    splitPlaces (c :: cs) = if c = '.' then spanDigits cs else ([], c :: cs) := by
  unfold splitPlaces
  split
  · rename_i h
    obtain ⟨rfl, rfl⟩ := List.cons.inj h
    rfl
  · rename_i hpoint
    have hc : c ≠ '.' := fun h => hpoint cs (by rw [h])
    rw [if_neg hc]

theorem splitPlaces_map_toLower (cs : List Char) :
    splitPlaces (cs.map Char.toLower) =
      ((splitPlaces cs).1, (splitPlaces cs).2.map Char.toLower) := by
  cases cs with
  | nil => rfl
  | cons c cs =>
      have hpoint : c.toLower = '.' ↔ c = '.' := toLower_eq_iff (by decide)
      simp only [List.map_cons, splitPlaces_cons, hpoint]
      split_ifs
      · exact spanDigits_map_toLower cs
      · rfl

/-! ## Numbers -/

theorem exponent?_cons (c : Char) (cs : List Char) :
    exponent? (c :: cs) =
      if c = 'e' ∨ c = 'E' then
        if (splitSign cs).2.isEmpty || !(splitSign cs).2.all Char.isDigit then none
        else some (if (splitSign cs).1 then -(natOfDigits (splitSign cs).2 : Int)
          else natOfDigits (splitSign cs).2)
      else none :=
  rfl

theorem exponent?_map_toLower (cs : List Char) :
    exponent? (cs.map Char.toLower) = exponent? cs := by
  cases cs with
  | nil => rfl
  | cons c cs =>
      have hdigit : Char.isDigit ∘ Char.toLower = Char.isDigit := funext isDigit_toLower
      rw [List.map_cons, exponent?_cons, exponent?_cons, splitSign_map_toLower]
      simp only [isExponentMark_toLower, List.isEmpty_map, List.all_map, hdigit]
      by_cases hdigits : (splitSign cs).2.all Char.isDigit = true
      · rw [map_toLower_of_isDigit (List.all_eq_true.mp hdigits)]
      · simp only [hdigits, Bool.not_false, Bool.or_true, if_true]

theorem unsigned?_eq (cs : List Char) :
    unsigned? cs =
      let (whole, rest) := spanDigits cs
      let (places, tail) := splitPlaces rest
      if whole.isEmpty && places.isEmpty then none
      else
        (exponent? tail).map fun e => scaled (natOfDigits (whole ++ places)) (e - places.length) :=
  rfl

theorem unsigned?_map_toLower (cs : List Char) :
    unsigned? (cs.map Char.toLower) = unsigned? cs := by
  simp only [unsigned?_eq, spanDigits_map_toLower, splitPlaces_map_toLower, exponent?_map_toLower]

theorem float?_eq (cs : List Char) :
    float? cs =
      let (negative, body) := splitSign cs
      let word := Text.lower (String.ofList body)
      let value? :=
        if word = "inf" ∨ word = "infinity" then some (Float.ofScientific 1 false 400)
        else if word = "nan" then some (0 / 0)
        else unsigned? body
      value?.map fun x => if negative then -x else x :=
  rfl

/-- The number that a text stands for does not depend on the case of its letters. -/
theorem float?_map_toLower (cs : List Char) : float? (cs.map Char.toLower) = float? cs := by
  have hword : Char.toLower ∘ Char.toLower = Char.toLower := funext Text.toLower_toLower
  simp only [float?_eq, splitSign_map_toLower, unsigned?_map_toLower, Text.lower,
    String.toList_ofList, List.map_map, hword]

end Guardrail.Decimal
