import Guardrail.Text.Blank
import Guardrail.Text.Lines

/-!
# Blanks at the ends of texts, and lines

What trimming takes from a text that is put together from parts, and the lines of a text that was
put together from lines.
-/

namespace Guardrail.Text

variable {p : Char → Bool}

/-! ## Ends -/

theorem dropEndWhile_append_of_ne_nil (front : List Char) {cs : List Char}
    (h : dropEndWhile p cs ≠ []) : dropEndWhile p (front ++ cs) = front ++ dropEndWhile p cs := by
  have hne : (cs.reverse.dropWhile p).isEmpty = false := by
    simpa [dropEndWhile] using h
  simp [dropEndWhile, List.dropWhile_append, hne]

theorem dropEndWhile_append_of_forall (cs : List Char) {rest : List Char}
    (h : ∀ c ∈ rest, p c = true) : dropEndWhile p (cs ++ rest) = dropEndWhile p cs := by
  have hrest : ∀ c ∈ rest.reverse, p c = true := by
    simpa using h
  rw [dropEndWhile, List.reverse_append, List.dropWhile_append_of_pos hrest, dropEndWhile]

/-- A text that loses nothing at its end keeps it behind any other text. -/
theorem dropEndWhile_append_of_eq_self (front : List Char) {cs : List Char} (hne : cs ≠ [])
    (h : dropEndWhile p cs = cs) : dropEndWhile p (front ++ cs) = front ++ cs := by
  have hne' : dropEndWhile p cs ≠ [] := by
    rwa [h]
  rw [dropEndWhile_append_of_ne_nil front hne', h]

theorem dropEndWhile_cons_of_eq_self {c : Char} {cs : List Char} (hc : p c = false)
    (h : dropEndWhile p cs = cs) : dropEndWhile p (c :: cs) = c :: cs := by
  cases cs with
  | nil => simp [dropEndWhile, hc]
  | cons d ds => exact dropEndWhile_append_of_eq_self [c] (List.cons_ne_nil d ds) h

theorem dropEndWhile_of_forall_not {cs : List Char} (h : ∀ c ∈ cs, p c = false) :
    dropEndWhile p cs = cs := by
  induction cs with
  | nil => rfl
  | cons c cs ih =>
      exact dropEndWhile_cons_of_eq_self (h c List.mem_cons_self)
        (ih fun d hd => h d (List.mem_cons_of_mem c hd))

theorem dropEndWhile_of_getLast? {cs : List Char} (h : ∀ c ∈ cs.getLast?, p c = false) :
    dropEndWhile p cs = cs := by
  rcases List.eq_nil_or_concat cs with rfl | ⟨front, c, rfl⟩
  · rfl
  · have hc : p c = false := h c (by simp)
    simp [dropEndWhile, hc]

/-- What is taken off both ends is taken off the end of a longer text as well. -/
theorem dropEndWhile_dropWhile_append_of_forall (cs : List Char) {rest : List Char}
    (h : ∀ c ∈ rest, p c = true) :
    dropEndWhile p ((cs ++ rest).dropWhile p) = dropEndWhile p (cs.dropWhile p) := by
  have hrest : rest.dropWhile p = [] := by
    rw [← List.append_nil rest, List.dropWhile_append_of_pos h, List.dropWhile_nil]
  rw [List.dropWhile_append]
  split
  · rename_i he
    rw [hrest, List.isEmpty_iff.mp he]
  · exact dropEndWhile_append_of_forall _ h

/-! ## Trimming -/

theorem trim_append_of_blank {margin : List Char} (h : ∀ c ∈ margin, isBlank c = true)
    (cs : List Char) : trim (margin ++ cs) = trim cs := by
  rw [trim, List.dropWhile_append_of_pos h, trim]

theorem trim_append_blank (cs : List Char) {margin : List Char}
    (h : ∀ c ∈ margin, isBlank c = true) : trim (cs ++ margin) = trim cs :=
  dropEndWhile_dropWhile_append_of_forall cs h

theorem trim_eq_self {cs : List Char} (hhead : ∀ c ∈ cs.head?, isBlank c = false)
    (h : dropEndWhile isBlank cs = cs) : trim cs = cs := by
  cases cs with
  | nil => rfl
  | cons c cs => rw [trim, List.dropWhile_cons_of_neg (by simp [hhead c (by simp)]), h]

/-- A text that trimming leaves alone has no blank at its end. -/
theorem dropEndWhile_of_trim_eq_self {cs : List Char} (h : trim cs = cs) :
    dropEndWhile isBlank cs = cs := by
  have hlen : cs.length ≤ (cs.dropWhile isBlank).length := by
    calc
      cs.length = (trim cs).length := by rw [h]
      _ ≤ (cs.dropWhile isBlank).length := length_dropEndWhile_le _ _
  have hfront : cs.dropWhile isBlank = cs := (List.dropWhile_sublist _).eq_of_length_le hlen
  calc
    dropEndWhile isBlank cs = trim cs := by rw [trim, hfront]
    _ = cs := h

/-! ## Lines -/

theorem dropReturn_of_eq_self {line : List Char} (h : dropEndWhile isBlank line = line) :
    dropReturn line = line := by
  unfold dropReturn
  split
  · rename_i rest hr
    -- the last character would be blank
    have hlen := congrArg List.length h
    have hblank : isBlank '\r' = true := by decide
    have hle := (List.dropWhile_sublist isBlank (l := rest)).length_le
    have hlen' := congrArg List.length hr
    rw [dropEndWhile, hr, List.dropWhile_cons_of_pos hblank] at hlen
    simp only [List.length_reverse, List.length_cons] at hlen hlen'
    omega
  · rfl

theorem linesFrom_append {line : List Char} (h : '\n' ∉ line) (current rest : List Char) :
    linesFrom current (line ++ rest) = linesFrom (line.reverse ++ current) rest := by
  induction line generalizing current with
  | nil => rfl
  | cons c cs ih =>
      have hc : c ≠ '\n' := fun hc => h (hc ▸ List.mem_cons_self)
      rw [List.cons_append, linesFrom, if_neg hc, ih fun hm => h (List.mem_cons_of_mem c hm)]
      simp

theorem lines_append_break {line : List Char} (h : '\n' ∉ line) (rest : List Char) :
    lines (line ++ '\n' :: rest) = dropReturn line :: lines rest := by
  rw [lines, linesFrom_append h, linesFrom, if_pos rfl]
  simp [lines]

theorem lines_of_no_break {line : List Char} (h : '\n' ∉ line) (hne : line ≠ []) :
    lines line = [line] := by
  have hl := linesFrom_append h [] []
  simp only [List.append_nil] at hl
  rw [lines, hl, linesFrom]
  simp [hne]

/-- Lines that are joined are found again, whether a break follows the last one or not; none of
them may end with a carriage return. -/
theorem lines_intercalate {ls : List (List Char)}
    (h : ∀ l ∈ ls, '\n' ∉ l ∧ dropEndWhile isBlank l = l) {ending : List Char}
    (he : ending = ['\n'] ∧ ls ≠ [] ∨ ending = [] ∧ ls.getLast? ≠ some []) :
    lines (['\n'].intercalate ls ++ ending) = ls := by
  induction ls with
  | nil =>
      rcases he with ⟨-, hne⟩ | ⟨rfl, -⟩
      · exact absurd rfl hne
      · rfl
  | cons l ls ih =>
      obtain ⟨hl, htight⟩ := h l List.mem_cons_self
      cases ls with
      | nil =>
          rw [List.intercalate_singleton]
          rcases he with ⟨rfl, -⟩ | ⟨rfl, hlast⟩
          · rw [lines_append_break hl, dropReturn_of_eq_self htight]
            rfl
          · rw [List.append_nil, lines_of_no_break hl (by simpa using hlast)]
      | cons l' ls =>
          have he' : ending = ['\n'] ∧ l' :: ls ≠ [] ∨
              ending = [] ∧ (l' :: ls).getLast? ≠ some [] := by
            rcases he with ⟨rfl, -⟩ | ⟨rfl, hlast⟩
            · exact .inl ⟨rfl, List.cons_ne_nil _ _⟩
            · exact .inr ⟨rfl, by simpa [List.getLast?_cons_cons] using hlast⟩
          rw [List.intercalate_cons_cons, List.append_assoc, List.append_assoc,
            List.singleton_append, lines_append_break hl, dropReturn_of_eq_self htight,
            ih (fun l hm => h l (List.mem_cons_of_mem _ hm)) he']

end Guardrail.Text
