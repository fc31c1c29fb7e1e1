import Guardrail.Proofs.Text.Lines

/-!
# Breaks

A text as its lines with what ends them. Whether a line ends with a line feed, or with a carriage
return in front of it, cannot be seen from the line.
-/

namespace Guardrail.Text

/-! ## Texts one after another -/

/-- A text in front of a line feed: the lines that are complete, and the one that the line feed
ends. -/
theorem exists_linesFrom_append_break (current cs : List Char) :
    ∃ ls line, (linesFrom current cs = if line.isEmpty then ls else ls ++ [line]) ∧
      ∀ ds, linesFrom current (cs ++ '\n' :: ds) = ls ++ dropReturn line :: lines ds := by
  induction cs generalizing current with
  | nil =>
      refine ⟨[], current.reverse, ?_, fun ds => ?_⟩
      · rw [linesFrom, List.isEmpty_reverse, List.nil_append]
      · rw [List.nil_append, linesFrom, if_pos rfl]
        rfl
  | cons c cs ih =>
      by_cases hc : c = '\n'
      · obtain ⟨ls, line, hcs, hds⟩ := ih []
        refine ⟨dropReturn current.reverse :: ls, line, ?_, fun ds => ?_⟩
        · rw [linesFrom, if_pos hc, hcs]
          split <;> rfl
        · rw [List.cons_append, linesFrom, if_pos hc, hds, List.cons_append]
      · obtain ⟨ls, line, hcs, hds⟩ := ih (c :: current)
        refine ⟨ls, line, ?_, fun ds => ?_⟩
        · rw [linesFrom, if_neg hc, hcs]
        · rw [List.cons_append, linesFrom, if_neg hc, hds]

/-! ## Carriage returns -/

theorem exists_append_of_dropReturn (line : List Char) :
    ∃ ending, line = dropReturn line ++ ending ∧ (ending = [] ∨ ending = ['\r']) := by
  unfold dropReturn
  split
  · rename_i rest hr
    refine ⟨['\r'], ?_, .inr rfl⟩
    rw [← List.reverse_cons, ← hr, List.reverse_reverse]
  · exact ⟨[], (List.append_nil line).symm, .inl rfl⟩

/-- Behind another character only what follows it can lose a carriage return. -/
theorem dropReturn_append_cons (front : List Char) {c : Char} (hc : c ≠ '\r') (cs : List Char) :
    dropReturn (front ++ c :: cs) = front ++ c :: dropReturn cs := by
  rcases List.eq_nil_or_concat cs with rfl | ⟨cs, d, rfl⟩
  · unfold dropReturn
    simp [hc]
  · by_cases hd : d = '\r'
    · simp [dropReturn, hd]
    · simp [dropReturn, hd]

theorem dropReturn_of_notMem {line : List Char} (h : '\r' ∉ line) : dropReturn line = line := by
  obtain ⟨ending, hline, rfl | rfl⟩ := exists_append_of_dropReturn line
  · rw [List.append_nil] at hline
    exact hline.symm
  · rw [hline] at h
    simp at h

/-- The text with a carriage return in front of every line feed. -/
def withReturns (cs : List Char) : List Char :=
  cs.flatMap fun c => if c = '\n' then ['\r', '\n'] else [c]

theorem lines_withReturns {cs : List Char} (h : '\r' ∉ cs) : lines (withReturns cs) = lines cs := by
  have hfrom : ∀ current : List Char, '\r' ∉ current →
      linesFrom current (withReturns cs) = linesFrom current cs := by
    induction cs with
    | nil => exact fun _ _ => rfl
    | cons c cs ih =>
        intro current hcurrent
        obtain ⟨hc, hcs⟩ : c ≠ '\r' ∧ '\r' ∉ cs := by simpa [eq_comm] using h
        by_cases hbreak : c = '\n'
        · have hline : dropReturn ('\r' :: current).reverse = dropReturn current.reverse := by
            rw [dropReturn_of_notMem (by simpa using hcurrent : '\r' ∉ current.reverse)]
            simp [dropReturn]
          have hrest := ih hcs [] List.not_mem_nil
          rw [withReturns, List.flatMap_cons, if_pos hbreak, ← withReturns, List.cons_append,
            List.cons_append, List.nil_append, linesFrom, if_neg (by decide), linesFrom, if_pos rfl,
            linesFrom, if_pos hbreak, hline, hrest]
        · have hcurrent' : '\r' ∉ c :: current := by simp [hcurrent, Ne.symm hc]
          rw [withReturns, List.flatMap_cons, if_neg hbreak, ← withReturns, List.singleton_append,
            linesFrom, if_neg hbreak, linesFrom, if_neg hbreak, ih hcs _ hcurrent']
  exact hfrom [] List.not_mem_nil

/-! ## Lines and their ends -/

/-- A line of a text with what ends it; nothing ends the last one. -/
structure Line where
  chars : List Char
  ending : List Char
  deriving DecidableEq, Repr

/-- The line that a line feed ends. -/
def Line.ofBroken (line : List Char) : Line :=
  { chars := dropReturn line, ending := line.drop (dropReturn line).length ++ ['\n'] }

/-- The lines of a text with their ends; `current` holds the characters of the open line, last
first. What follows the last line feed is a line, even if it is empty. -/
def cutFrom (current : List Char) : List Char → List Line
  | [] => [⟨current.reverse, []⟩]
  | c :: cs =>
    if c = '\n' then .ofBroken current.reverse :: cutFrom [] cs else cutFrom (c :: current) cs

/-- The lines of a text with their ends. -/
def cut (cs : List Char) : List Line :=
  cutFrom [] cs

theorem Line.exists_ofBroken_eq (line : List Char) :
    ∃ ending, line = dropReturn line ++ ending ∧
      ofBroken line = ⟨dropReturn line, ending ++ ['\n']⟩ := by
  obtain ⟨ending, hline, -⟩ := exists_append_of_dropReturn line
  have hdrop : line.drop (dropReturn line).length = ending :=
    (congrArg (List.drop _) hline).trans List.drop_left
  exact ⟨ending, hline, by rw [ofBroken, hdrop]⟩

theorem cutFrom_append {line : List Char} (h : '\n' ∉ line) (current rest : List Char) :
    cutFrom current (line ++ rest) = cutFrom (line.reverse ++ current) rest := by
  induction line generalizing current with
  | nil => rfl
  | cons c cs ih =>
      obtain ⟨hc, hcs⟩ : c ≠ '\n' ∧ '\n' ∉ cs := by simpa [eq_comm] using h
      rw [List.cons_append, cutFrom, if_neg hc, ih hcs]
      simp

theorem cut_append_break {line : List Char} (h : '\n' ∉ line) (rest : List Char) :
    cut (line ++ '\n' :: rest) = .ofBroken line :: cut rest := by
  rw [cut, cutFrom_append h, cutFrom, if_pos rfl]
  simp [cut]

theorem cut_of_no_break {line : List Char} (h : '\n' ∉ line) : cut line = [⟨line, []⟩] := by
  have hcut := cutFrom_append h [] []
  rw [List.append_nil, List.append_nil] at hcut
  rw [cut, hcut, cutFrom, List.reverse_reverse]

/-- Nothing of the text is lost. -/
theorem flatMap_cut (cs : List Char) : (cut cs).flatMap (fun l => l.chars ++ l.ending) = cs := by
  have hfrom : ∀ current, (cutFrom current cs).flatMap (fun l => l.chars ++ l.ending) =
      current.reverse ++ cs := by
    induction cs with
    | nil => simp [cutFrom]
    | cons c cs ih =>
        intro current
        by_cases hc : c = '\n'
        · obtain ⟨ending, hline, hbroken⟩ := Line.exists_ofBroken_eq current.reverse
          have hopen : dropReturn current.reverse ++ (ending ++ ['\n']) = current.reverse ++ ['\n'] := by
            rw [← List.append_assoc, ← hline]
          rw [cutFrom, if_pos hc, List.flatMap_cons, ih, hbroken, hopen, hc]
          simp
        · rw [cutFrom, if_neg hc, ih]
          simp
  exact hfrom []

/-- What is cut are the lines, and the empty end of a text that ends with a line feed. -/
theorem lines_eq (cs : List Char) :
    lines cs = (cut cs).map Line.chars ∨ lines cs ++ [[]] = (cut cs).map Line.chars := by
  have hfrom : ∀ current, linesFrom current cs = (cutFrom current cs).map Line.chars ∨
      linesFrom current cs ++ [[]] = (cutFrom current cs).map Line.chars := by
    induction cs with
    | nil =>
        intro current
        cases current with
        | nil => exact .inr rfl
        | cons c current => exact .inl rfl
    | cons c cs ih =>
        intro current
        by_cases hc : c = '\n'
        · rw [linesFrom, if_pos hc, cutFrom, if_pos hc]
          exact (ih []).imp (congrArg (List.cons _)) (congrArg (List.cons _))
        · rw [linesFrom, if_neg hc, cutFrom, if_neg hc]
          exact ih (c :: current)
  exact hfrom []

end Guardrail.Text
