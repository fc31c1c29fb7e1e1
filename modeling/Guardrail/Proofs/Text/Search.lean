import Guardrail.Text.Blank
import Guardrail.Text.Search

/-!
# Pieces of texts

The pieces between separators: a text without one is its only piece, and every other character is
in a piece. What stands in front of the last separator and behind it determines a text, and the
other way round. A run of characters of one kind ends with the text or where another kind begins.
No blank is a printable character of ASCII.
-/

namespace Guardrail.Text

variable {sep : Char → Bool}

theorem splitWhere_of_forall_not {cs : List Char} (h : ∀ c ∈ cs, sep c = false) :
    splitWhere sep cs = [cs] := by
  induction cs with
  | nil => rfl
  | cons c cs ih =>
      simp [splitWhere, h c List.mem_cons_self, ih fun d hd => h d (List.mem_cons_of_mem _ hd)]

theorem splitWhere_append {front : List Char} (h : ∀ c ∈ front, sep c = false) {c : Char}
    (hc : sep c = true) (rest : List Char) :
    splitWhere sep (front ++ c :: rest) = front :: splitWhere sep rest := by
  induction front with
  | nil => simp [splitWhere, hc]
  | cons d front ih =>
      simp [splitWhere, h d List.mem_cons_self, ih fun e he => h e (List.mem_cons_of_mem _ he)]

/-- A character that does not separate pieces is in one of them. -/
theorem exists_mem_splitWhere (sep : Char → Bool) {cs : List Char} {c : Char} (h : c ∈ cs)
    (hc : sep c = false) : ∃ piece ∈ splitWhere sep cs, c ∈ piece := by
  induction cs with
  | nil => exact absurd h List.not_mem_nil
  | cons d cs ih =>
      rw [splitWhere]
      rcases List.mem_cons.mp h with rfl | h
      · rw [if_neg (by simp [hc])]
        cases splitWhere sep cs with
        | nil => exact ⟨[c], by simp, by simp⟩
        | cons first pieces => exact ⟨c :: first, by simp, by simp⟩
      · obtain ⟨piece, hp, hcp⟩ := ih h
        by_cases hd : sep d = true
        · rw [if_pos hd]
          exact ⟨piece, List.mem_cons_of_mem _ hp, hcp⟩
        · rw [if_neg hd]
          cases hs : splitWhere sep cs with
          | nil => simp [hs] at hp
          | cons first pieces =>
              rw [hs] at hp
              rcases List.mem_cons.mp hp with rfl | hp
              · exact ⟨d :: piece, by simp, List.mem_cons_of_mem d hcp⟩
              · exact ⟨piece, List.mem_cons_of_mem _ hp, hcp⟩

theorem append_cons_inj_of_last {c : Char} {xs ys us vs : List Char} (hu : c ∉ us) (hv : c ∉ vs)
    (h : xs ++ c :: us = ys ++ c :: vs) : xs = ys ∧ us = vs := by
  rcases List.append_eq_append_iff.mp h with ⟨mid, rfl, hmid⟩ | ⟨mid, rfl, hmid⟩
  · cases mid with
    | nil => exact ⟨(List.append_nil xs).symm, (List.cons.inj hmid).2⟩
    | cons d mid =>
        have hmem : c ∈ us := by simp [(List.cons.inj hmid).2]
        exact absurd hmem hu
  · cases mid with
    | nil => exact ⟨List.append_nil ys, (List.cons.inj hmid).2.symm⟩
    | cons d mid =>
        have hmem : c ∈ vs := by simp [(List.cons.inj hmid).2]
        exact absurd hmem hv

theorem occurs_iff {needle cs : List Char} : occurs needle cs = true ↔ needle <:+: cs := by
  have hfront : ∀ cs, (after? needle cs).isSome = true ↔ needle <+: cs := by
    intro cs
    simp only [Option.isSome_iff_exists, after?_eq_some_iff]
    exact ⟨fun ⟨rest, h⟩ => ⟨rest, h.symm⟩, fun ⟨rest, h⟩ => ⟨rest, h.symm⟩⟩
  induction cs with
  | nil => simp [occurs]
  | cons c cs ih => simp only [occurs, Bool.or_eq_true, hfront, ih, List.infix_cons_iff]

/-! ## Runs -/

variable {p : Char → Bool} {run rest : List Char}

theorem takeWhile_append_of_head? (hrun : ∀ c ∈ run, p c = true)
    (hrest : ∀ c ∈ rest.head?, p c = false) : (run ++ rest).takeWhile p = run := by
  rw [List.takeWhile_append_of_pos hrun]
  cases rest with
  | nil => simp
  | cons d rest => simp [hrest d (by simp)]

theorem dropWhile_append_of_head? (hrun : ∀ c ∈ run, p c = true)
    (hrest : ∀ c ∈ rest.head?, p c = false) : (run ++ rest).dropWhile p = rest := by
  rw [List.dropWhile_append_of_pos hrun]
  cases rest with
  | nil => simp
  | cons d rest => simp [hrest d (by simp)]

theorem forall_head?_dropWhile (p : Char → Bool) (cs : List Char) :
    ∀ c ∈ (cs.dropWhile p).head?, p c = false := by
  intro c hc
  have h := List.head?_dropWhile_not p cs
  rwa [Option.mem_def.mp hc] at h

theorem takeWhile_append_of_dropWhile {mark c : Char} {cs behind : List Char}
    (h : cs.dropWhile (· ≠ mark) = c :: behind) :
    cs = cs.takeWhile (· ≠ mark) ++ mark :: behind := by
  have hc : decide (c ≠ mark) = false := by
    apply forall_head?_dropWhile (· ≠ mark) cs c
    rw [h]
    rfl
  obtain rfl : c = mark := by simpa using hc
  rw [← h, List.takeWhile_append_dropWhile]

theorem forall_mem_takeWhile (p : Char → Bool) (cs : List Char) :
    ∀ c ∈ cs.takeWhile p, p c = true := by
  intro c hc
  have h := List.all_takeWhile (p := p) (l := cs)
  exact List.all_eq_true.mp h c hc

/-! ## Joined pieces -/

theorem intercalate_ne_empty (sep : String) {items : List String} (hne : items ≠ [])
    (hitems : ∀ s ∈ items, s ≠ "") : sep.intercalate items ≠ "" := by
  cases items with
  | nil => exact absurd rfl hne
  | cons s rest =>
      have hs := hitems s List.mem_cons_self
      cases rest with
      | nil => rwa [String.intercalate_singleton]
      | cons t rest =>
          rw [String.intercalate_cons_cons]
          simp [hs]

/-! ## Blanks -/

theorem toNat_bounds_of_isBlank {c : Char} (h : isBlank c = true) :
    c.toNat ≤ 0x20 ∨ 0x80 ≤ c.toNat := by
  simp only [isBlank, Bool.or_eq_true, Bool.and_eq_true, decide_eq_true_eq, Char.le_def,
    UInt32.le_iff_toNat_le, Char.ext_iff, ← UInt32.toNat_inj, Char.reduceVal,
    UInt32.reduceToNat] at h
  rw [Char.toNat]
  omega

end Guardrail.Text
