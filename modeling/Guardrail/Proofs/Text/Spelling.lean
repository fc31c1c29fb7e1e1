import Guardrail.Proofs.Text.Lines
import Guardrail.Proofs.Text.Search
import Guardrail.Text.Case
import Mathlib.Data.List.TakeWhile

/-!
# Spellings of texts

A text may be spelled with blanks around it, and with large or small letters. All spellings of a
text have the same normal one, and no other text has it.
-/

namespace Guardrail.Text

/-! ## The case of letters -/

theorem isUpper_iff {c : Char} : c.isUpper = true ↔ 0x41 ≤ c.toNat ∧ c.toNat ≤ 0x5a :=
  decide_eq_true_iff

theorem isAlpha_iff {c : Char} :
    c.isAlpha = true ↔ c.isUpper = true ∨ 0x61 ≤ c.toNat ∧ c.toNat ≤ 0x7a := by
  have hlower : c.isLower = true ↔ 0x61 ≤ c.toNat ∧ c.toNat ≤ 0x7a :=
    Bool.and_eq_true_iff.trans (and_congr decide_eq_true_iff decide_eq_true_iff)
  rw [← hlower]
  exact Bool.or_eq_true_iff

theorem toNat_bounds_of_isAlpha {c : Char} (h : c.isAlpha = true) :
    0x41 ≤ c.toNat ∧ c.toNat ≤ 0x7a := by
  rw [isAlpha_iff, isUpper_iff] at h
  omega

theorem toNat_toLower (c : Char) :
    c.toLower.toNat = if c.isUpper = true then c.toNat + 32 else c.toNat := by
  unfold Char.toLower
  split
  next h =>
    have hupper : c.isUpper = true := decide_eq_true h
    have hc : c.val.toNat ≤ 0x5a := (isUpper_iff.mp hupper).2
    have hstep : ('a'.val - 'A'.val).toNat = 32 := rfl
    rw [if_pos hupper, ← Char.toNat_val, ← Char.toNat_val, UInt32.toNat_add, hstep]
    omega
  next h =>
    have hupper : ¬c.isUpper = true := fun hc => h (of_decide_eq_true hc)
    rw [if_neg hupper]

theorem isBlank_eq_false_of_isAlpha {c : Char} (h : c.isAlpha = true) : isBlank c = false := by
  refine Bool.eq_false_iff.mpr fun hblank => ?_
  have hc := toNat_bounds_of_isAlpha h
  have hb := toNat_bounds_of_isBlank hblank
  omega

theorem toLower_of_isAlpha_eq_false {c : Char} (h : c.isAlpha = false) : c.toLower = c := by
  have hupper : c.isUpper = false := (Bool.or_eq_false_iff.mp h).1
  rw [← Char.toNat_inj, toNat_toLower, if_neg (Bool.eq_false_iff.mp hupper)]

theorem isAlpha_toLower {c : Char} (h : c.isAlpha = true) : c.toLower.isAlpha = true := by
  have hlower := toNat_toLower c
  rw [isAlpha_iff] at h ⊢
  split at hlower
  next hupper =>
    rw [isUpper_iff] at hupper
    omega
  next hupper =>
    rw [hlower]
    exact .inr (h.resolve_left hupper)

theorem toLower_toLower (c : Char) : c.toLower.toLower = c.toLower := by
  have hsmall : ¬c.toLower.isUpper = true := by
    rw [isUpper_iff, toNat_toLower]
    split
    next hupper =>
      rw [isUpper_iff] at hupper
      omega
    next hupper => exact fun h => hupper (isUpper_iff.mpr h)
  rw [← Char.toNat_inj, toNat_toLower, if_neg hsmall]

/-- What no letter satisfies does not depend on the case of letters. -/
theorem apply_toLower {p : Char → Bool} (h : ∀ c, c.isAlpha = true → p c = false) (c : Char) :
    p c.toLower = p c := by
  cases hc : c.isAlpha with
  | false => rw [toLower_of_isAlpha_eq_false hc]
  | true => rw [h c hc, h _ (isAlpha_toLower hc)]

/-- What turns blanks into blanks, and nothing else into one, may be done before or after
trimming. -/
theorem trim_map {f : Char → Char} (h : ∀ c, isBlank (f c) = isBlank c) (cs : List Char) :
    trim (cs.map f) = (trim cs).map f := by
  have hblank : isBlank ∘ f = isBlank := funext h
  rw [trim, List.dropWhile_map, hblank, dropEndWhile, ← List.map_reverse, List.dropWhile_map,
    hblank, ← List.map_reverse, trim, dropEndWhile]

theorem trim_map_toLower (cs : List Char) :
    trim (cs.map Char.toLower) = (trim cs).map Char.toLower :=
  trim_map (apply_toLower fun _ => isBlank_eq_false_of_isAlpha) cs

/-! ## Normal spellings -/

/-- The text in small letters, without blanks around it. -/
def normal (s : String) : String :=
  lower (strip s)

theorem normal_eq_strip_lower (s : String) : normal s = strip (lower s) := by
  simp only [normal, lower, strip, String.toList_ofList, trim_map_toLower]

theorem dropEndWhile_sublist (p : Char → Bool) (cs : List Char) :
    (dropEndWhile p cs).Sublist cs := by
  simpa [dropEndWhile] using (List.dropWhile_sublist p (l := cs.reverse)).reverse

theorem trim_sublist (cs : List Char) : (trim cs).Sublist cs :=
  (dropEndWhile_sublist _ _).trans (List.dropWhile_sublist _)

/-- Only a text without blanks around it is in its normal spelling but for the case of letters. -/
theorem lower_eq_normal_iff (s : String) : lower s = normal s ↔ strip s = s := by
  constructor
  · intro h
    have hlength := congrArg (fun t : String => t.toList.length) h
    simp only [normal, lower, strip, String.toList_ofList, List.length_map] at hlength
    rw [strip, (trim_sublist s.toList).eq_of_length hlength.symm, String.ofList_toList]
  · intro h
    rw [normal, h]

/-! ## Spellings of one text -/

/-- Two spellings of one text: each comes from the other by blanks that are added or taken away at
the ends, and by letters that are written large or small. -/
inductive Respelling : String → String → Prop where
  | margins {front back cs : List Char} (hfront : ∀ c ∈ front, isBlank c = true)
      (hback : ∀ c ∈ back, isBlank c = true) :
      Respelling (String.ofList cs) (String.ofList (front ++ cs ++ back))
  | letters {s t : String} (h : sameLetters s t = true) : Respelling s t
  | symm {s t : String} (h : Respelling s t) : Respelling t s
  | trans {s t u : String} (h : Respelling s t) (h' : Respelling t u) : Respelling s u

theorem dropEndWhile_append_takeWhile (p : Char → Bool) (cs : List Char) :
    dropEndWhile p cs ++ (cs.reverse.takeWhile p).reverse = cs := by
  rw [dropEndWhile, ← List.reverse_append, List.takeWhile_append_dropWhile, List.reverse_reverse]

/-- What is trimmed off a text are blanks at its ends. -/
theorem exists_margins (cs : List Char) :
    ∃ front back, (∀ c ∈ front, isBlank c = true) ∧ (∀ c ∈ back, isBlank c = true) ∧
      front ++ trim cs ++ back = cs := by
  refine ⟨cs.takeWhile isBlank, ((cs.dropWhile isBlank).reverse.takeWhile isBlank).reverse,
    fun c hc => forall_mem_takeWhile isBlank _ c hc,
    fun c hc => forall_mem_takeWhile isBlank _ c (List.mem_reverse.mp hc), ?_⟩
  rw [List.append_assoc, trim, dropEndWhile_append_takeWhile, List.takeWhile_append_dropWhile]

theorem trim_eq_nil_iff {cs : List Char} : trim cs = [] ↔ ∀ c ∈ cs, isBlank c = true := by
  rw [trim, dropEndWhile, List.reverse_eq_nil_iff, List.dropWhile_eq_nil_iff]
  constructor
  · intro h c hc
    rw [← List.takeWhile_append_dropWhile (p := isBlank) (l := cs)] at hc
    rcases List.mem_append.mp hc with hc | hc
    · exact forall_mem_takeWhile isBlank cs c hc
    · exact h c (List.mem_reverse.mpr hc)
  · intro h c hc
    exact h c ((List.dropWhile_sublist _).mem (List.mem_reverse.mp hc))

theorem respelling_strip (s : String) : Respelling s (strip s) := by
  obtain ⟨front, back, hfront, hback, hs⟩ := exists_margins s.toList
  have h : Respelling (strip s) (String.ofList (front ++ trim s.toList ++ back)) :=
    .margins hfront hback
  rw [hs, String.ofList_toList] at h
  exact h.symm

/-- Two texts are spellings of one text exactly if they have the same normal spelling. -/
theorem respelling_iff {s t : String} : Respelling s t ↔ normal s = normal t := by
  constructor
  · intro h
    induction h with
    | margins hfront hback =>
        simp only [normal, strip, String.toList_ofList]
        rw [trim_append_blank _ hback, trim_append_of_blank hfront]
    | letters h => rw [normal_eq_strip_lower, normal_eq_strip_lower, sameLetters_iff.mp h]
    | symm _ ih => exact ih.symm
    | trans _ _ ih ih' => exact ih.trans ih'
  · intro h
    have hlower : Respelling (strip s) (strip t) := .letters (sameLetters_iff.mpr h)
    exact ((respelling_strip s).trans hlower).trans (respelling_strip t).symm

end Guardrail.Text
