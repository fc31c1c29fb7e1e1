import Guardrail.Proofs.Text.Breaks
import Guardrail.Rego.Scanner

/-!
# The scanner line by line

What a line does outside rules depends on little of the scanner's state. The end of a line, and a
carriage return in front of it, can be seen in the body of an open rule only.
-/

namespace Guardrail.Rego.Scanner

variable {s s' : Scanner}

theorem feed_eq_outside (hs : s.mode = .outside) (line : List Char) :
    s.feed line = s.outside (stripComment line) := by
  rw [feed, if_pos hs]

theorem feed_eq_body (hs : s.mode ≠ .outside) (line : List Char) :
    s.feed line = s.body .plain (stripComment line) := by
  rw [feed, if_neg hs]

/-! ## Lines outside rules -/

/-- What a line declares depends on the package and the waiting head, and changes nothing else. -/
theorem declare_eq (s : Scanner) (line : List Char) :
    s.declare line =
      let d := declare { start with package := s.package, pending? := s.pending? } line
      ({ s with package := d.1.package, pending? := d.1.pending? }, d.2) := by
  obtain ⟨package, mode, depth, draft?, pending?, statement, blocks⟩ := s
  unfold declare
  dsimp only
  split
  · rfl
  · rfl
  · cases packageName? line with
    | some name => rfl
    | none =>
        cases head? line with
        | none => rfl
        | some found =>
            obtain ⟨h, body?⟩ := found
            cases body? <;> rfl

theorem outside_of_declare_none {line : List Char}
    (h : s.declare (Text.trim line) = (s', none)) : s.outside line = s' := by
  rw [outside]
  split
  · simp_all
  · simp_all

theorem outside_of_declare_some {line rest : List Char} {head : Head}
    (h : s.declare (Text.trim line) = (s', some (head, rest))) :
    s.outside line = (s'.openRule head).body .plain rest := by
  rw [outside]
  split
  · simp_all
  · simp_all

theorem outside_nil (s : Scanner) : s.outside [] = s := by
  apply outside_of_declare_none
  simp [declare]

theorem outside_append_return (s : Scanner) (line : List Char) :
    s.outside (line ++ ['\r']) = s.outside line := by
  have htrim : Text.trim (line ++ ['\r']) = Text.trim line :=
    Text.trim_append_blank line (List.forall_mem_singleton.mpr (by decide))
  cases hd : s.declare (Text.trim line) with
  | mk t opened? =>
      cases opened? with
      | none => rw [outside_of_declare_none hd, outside_of_declare_none (htrim ▸ hd)]
      | some opened => rw [outside_of_declare_some hd, outside_of_declare_some (htrim ▸ hd)]

/-! ## Ends of lines -/

/-- Two scanners that differ at most in the rule that is open. -/
structure Concurs (s s' : Scanner) : Prop where
  package : s.package = s'.package
  mode : s.mode = s'.mode
  pending : s.pending? = s'.pending?
  blocks : s.blocks = s'.blocks

theorem concurs_refl (s : Scanner) : s.Concurs s := ⟨rfl, rfl, rfl, rfl⟩

theorem Concurs.symm (h : s.Concurs s') : s'.Concurs s :=
  ⟨h.package.symm, h.mode.symm, h.pending.symm, h.blocks.symm⟩

theorem body_end (s : Scanner) (q : Quoting) : s.body q [] = s.endLine := by
  rw [body]

theorem concurs_endLine (s : Scanner) : s.endLine.Concurs s := by
  unfold endLine
  split <;> exact ⟨rfl, rfl, rfl, rfl⟩

theorem concurs_body_append_return (s : Scanner) (q : Quoting) (line : List Char) :
    (s.body q (line ++ ['\r'])).Concurs (s.body q line) := by
  induction line generalizing s q with
  | nil =>
      have hend : (s.push '\r').endLine.Concurs s.endLine := by
        unfold endLine push
        dsimp only
        split <;> exact ⟨rfl, rfl, rfl, rfl⟩
      have hplain : s.plain '\r' = s.push '\r' := by simp [plain]
      have hbrace : ¬('\r' = '}' ∧ s.depth ≤ 1) := by simp
      rw [List.nil_append, body_end, body, if_neg hbrace, hplain, body_end, ite_self]
      exact hend
  | cons c cs ih =>
      rw [List.cons_append, body, body]
      split
      · split
        · rw [outside_append_return]
          exact concurs_refl _
        · exact ih _ _
      · exact ih _ _

theorem stripComment_append_return (line : List Char) :
    stripComment (line ++ ['\r']) = stripComment line ∨
      stripComment (line ++ ['\r']) = stripComment line ++ ['\r'] := by
  have hfrom : ∀ q, uncommented q (line ++ ['\r']) = uncommented q line ∨
      uncommented q (line ++ ['\r']) = uncommented q line ++ ['\r'] := by
    induction line with
    | nil => exact fun q => .inr (by simp [uncommented])
    | cons c cs ih =>
        intro q
        rw [List.cons_append, uncommented, uncommented]
        split
        · exact .inl rfl
        · exact (ih (q.next c)).imp (congrArg (List.cons c)) (congrArg (List.cons c))
  exact hfrom .plain

theorem concurs_feed_nil (s : Scanner) : (s.feed []).Concurs s := by
  have hstrip : stripComment [] = [] := rfl
  rw [feed, hstrip, outside_nil, body_end]
  split
  · exact concurs_refl s
  · exact concurs_endLine s

theorem concurs_feed_append_return (s : Scanner) (line : List Char) :
    (s.feed (line ++ ['\r'])).Concurs (s.feed line) := by
  rw [feed, feed]
  rcases stripComment_append_return line with h | h
  · rw [h]
    exact concurs_refl _
  · rw [h, outside_append_return]
    split
    · exact concurs_refl _
    · exact concurs_body_append_return _ _ _

theorem concurs_feed_dropReturn (s : Scanner) (line : List Char) :
    (s.feed line).Concurs (s.feed (Text.dropReturn line)) := by
  obtain ⟨ending, hline, rfl | rfl⟩ := Text.exists_append_of_dropReturn line
  · rw [List.append_nil] at hline
    rw [← hline]
    exact concurs_refl _
  · have h := concurs_feed_append_return s (Text.dropReturn line)
    rwa [← hline] at h

end Guardrail.Rego.Scanner
