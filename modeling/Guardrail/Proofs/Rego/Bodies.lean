import Guardrail.Proofs.Rego.Lines
import Guardrail.Proofs.Rego.Scanning

/-!
# Scanning bodies

In the body of a rule a closed text is taken into the open statement as it is. So the rows of a
body give one statement after another to the draft, and the brace behind the last row completes the
block.
-/

namespace Guardrail.Rego

variable {package : String} {bs : List Block} {d : Draft}

/-- The draft with the statement that has been read, last character first, unless it is blank. -/
def Draft.finish (d : Draft) (statement : List Char) : Draft :=
  if (Text.trim statement.reverse).isEmpty then d else d.absorb (Text.trim statement.reverse)

namespace Scanner

/-! ## States -/

/-- The scanner between two rules. -/
def idle (package : String) (bs : List Block) : Scanner :=
  { start with package, blocks := bs }

/-- The scanner in the body of a rule, with so many brackets open inside the body. -/
def inside (package : String) (bs : List Block) (d : Draft) (depth : Nat)
    (statement : List Char) : Scanner :=
  { package
    mode := if depth = 0 then .body else .nested
    depth := depth + 1
    draft? := some d
    pending? := none
    statement
    blocks := bs }

theorem flush_inside (st : List Char) :
    (inside package bs d 0 st).flush = inside package bs (d.finish st) 0 [] := by
  by_cases h : (Text.trim st.reverse).isEmpty = true
  · simp [flush, inside, Draft.finish, h]
  · simp [flush, inside, Draft.finish, h]

theorem closeRule_inside (st : List Char) :
    (inside package bs d 0 st).closeRule =
      idle package (bs ++ [(d.finish st).toBlock package]) := by
  rw [closeRule, flush_inside]
  rfl

theorem push_inside (c : Char) (depth : Nat) (st : List Char) :
    (inside package bs d depth st).push c = inside package bs d depth (c :: st) := rfl

theorem openBracket_inside (c : Char) (depth : Nat) (st : List Char) :
    (inside package bs d depth st).openBracket c = inside package bs d (depth + 1) (c :: st) := rfl

theorem closeBracket_inside (c : Char) (depth : Nat) (st : List Char) :
    (inside package bs d (depth + 1) st).closeBracket c = inside package bs d depth (c :: st) := by
  cases depth <;> simp [closeBracket, inside]

/-! ## Closed texts -/

/-- A character outside strings that is neither a bracket nor a separator. -/
theorem plain_inside {c : Char} {depth : Nat} (hopen : ¬(c = '{' ∨ c = '[' ∨ c = '('))
    (hclose : ¬(c = '}' ∨ c = ']' ∨ c = ')')) (hsep : ¬(c = ';' ∧ depth = 0)) (st : List Char) :
    (inside package bs d depth st).plain c = inside package bs d depth (c :: st) := by
  have hsep' : ¬(c = ';' ∧ (inside package bs d depth st).depth = 1) := by
    simpa [inside] using hsep
  rw [plain, if_neg hopen, if_neg hclose, if_neg hsep', push_inside]

/-- A semicolon outside brackets ends the statement. -/
theorem plain_inside_separator (st : List Char) :
    (inside package bs d 0 st).plain ';' = inside package bs (d.finish st) 0 [] := by
  rw [← flush_inside]
  simp [plain, inside]

/-- A closed text goes into the open statement. -/
theorem body_closed {q : Quoting} {depth : Nat} {cs : List Char} (h : isClosed q depth cs = true)
    (st rest : List Char) :
    (inside package bs d depth st).body q (cs ++ rest) =
      (inside package bs d 0 (cs.reverse ++ st)).body .plain rest := by
  induction cs generalizing q depth st with
  | nil =>
      simp only [isClosed, Bool.and_eq_true, decide_eq_true_eq] at h
      obtain ⟨rfl, rfl⟩ := h
      rfl
  | cons c cs ih =>
      rw [List.cons_append, body, List.reverse_cons, List.append_assoc, List.singleton_append]
      by_cases hq : q = .plain
      · subst hq
        rw [if_pos rfl]
        -- no bracket of a closed text is the brace of the rule, which counts as one more
        obtain ⟨-, depth', hcs, ⟨hopen, rfl⟩ | ⟨hclose, rfl⟩ | ⟨hopen, hclose, hsep, rfl⟩⟩ :=
          isClosed_cons h
        · have hbrace : ¬(c = '}' ∧ (inside package bs d depth st).depth ≤ 1) := by
            rintro ⟨rfl, -⟩
            simp at hopen
          rw [if_neg hbrace, plain, if_pos hopen, openBracket_inside, ih hcs]
        · have hbrace : ¬(c = '}' ∧ (inside package bs d (depth' + 1) st).depth ≤ 1) := by
            simp [inside]
          have hopen : ¬(c = '{' ∨ c = '[' ∨ c = '(') := by
            rcases hclose with rfl | rfl | rfl <;> decide
          rw [if_neg hbrace, plain, if_neg hopen, if_pos hclose, closeBracket_inside, ih hcs]
        · have hbrace : ¬(c = '}' ∧ (inside package bs d depth' st).depth ≤ 1) :=
            fun hb => hclose (.inl hb.1)
          rw [if_neg hbrace, plain_inside hopen hclose hsep, ih hcs]
      · rw [isClosed, if_pos hq] at h
        rw [if_neg hq, push_inside, ih h]

end Scanner

theorem Margin.closed (m : Margin) : isClosed .plain 0 m.chars = true := by
  obtain ⟨cs, h⟩ := m
  induction cs with
  | nil => rfl
  | cons c cs ih =>
      have hcs : isClosed .plain 0 cs = true := ih fun d hd => h d (List.mem_cons_of_mem c hd)
      rcases h c List.mem_cons_self with rfl | rfl <;> exact hcs

/-! ## Statements and rows -/

namespace Draft

/-- The draft with several statements in order. -/
def absorbAll (d : Draft) (statements : List StatementText) : Draft :=
  statements.foldl (fun d s => d.absorb s.chars) d

theorem finish_margin (m : Margin) (st : List Char) :
    d.finish (m.chars.reverse ++ st) = d.finish st := by
  have htrim : Text.trim (m.chars.reverse ++ st).reverse = Text.trim st.reverse := by
    rw [List.reverse_append, List.reverse_reverse]
    exact Text.trim_append_blank _ fun _ hc => m.isBlank_of_mem hc
  rw [finish, htrim, finish]

theorem finish_statement (m : Margin) (s : StatementText) :
    d.finish (s.chars.reverse ++ m.chars.reverse) = d.absorb s.chars := by
  have htrim : Text.trim (s.chars.reverse ++ m.chars.reverse).reverse = s.chars := by
    rw [List.reverse_append, List.reverse_reverse, List.reverse_reverse,
      Text.trim_append_of_blank (fun _ hc => m.isBlank_of_mem hc), s.trim_eq]
  have hne : s.chars.isEmpty = false := by
    simpa using s.ne_nil
  rw [finish, htrim, hne, if_neg Bool.false_ne_true]

end Draft

namespace Scanner

theorem body_statement (m : Margin) (s : StatementText) (rest : List Char) :
    (inside package bs d 0 []).body .plain (m.chars ++ (s.chars ++ rest)) =
      (inside package bs d 0 (s.chars.reverse ++ m.chars.reverse)).body .plain rest := by
  rw [body_closed m.closed, body_closed s.closed, List.append_nil]

theorem body_semicolon (st rest : List Char) :
    (inside package bs d 0 st).body .plain (';' :: rest) =
      (inside package bs (d.finish st) 0 []).body .plain rest := by
  have hbrace : ¬(';' = '}' ∧ (inside package bs d 0 st).depth ≤ 1) := by simp
  rw [body, if_pos rfl, if_neg hbrace, plain_inside_separator]
  rfl

theorem body_nil (st : List Char) :
    (inside package bs d 0 st).body .plain [] = inside package bs (d.finish st) 0 [] := by
  have hmode : (inside package bs d 0 st).mode = .body := rfl
  rw [body, endLine, if_pos hmode, flush_inside]

theorem body_close (m : Margin) (st : List Char) :
    (inside package bs d 0 st).body .plain (m.chars ++ ['}']) =
      idle package (bs ++ [(d.finish st).toBlock package]) := by
  have hbrace : '}' = '}' ∧ (inside package bs d 0 (m.chars.reverse ++ st)).depth ≤ 1 := by
    simp [inside]
  rw [body_closed m.closed, body, if_pos rfl, if_pos hbrace, closeRule_inside, outside_nil,
    Draft.finish_margin]

/-- A row gives its statements to the draft, whatever ends the row, if it ends the open statement. -/
theorem body_row {rest : List Char} (result : Draft → Scanner)
    (h : ∀ d st, (inside package bs d 0 st).body .plain rest = result (d.finish st))
    (d : Draft) (row : Row) :
    (inside package bs d 0 []).body .plain (rowText row ++ rest) =
      result (d.absorbAll (row.map Prod.snd)) := by
  induction row generalizing d with
  | nil => exact h d []
  | cons part row ih =>
      obtain ⟨m, s⟩ := part
      cases row with
      | nil =>
          rw [rowText, List.append_assoc, body_statement, h, Draft.finish_statement]
          rfl
      | cons next row =>
          have hrow := ih (d.absorb s.chars)
          rw [rowText_cons_cons, List.append_assoc, List.append_assoc, body_statement,
            List.cons_append, body_semicolon, Draft.finish_statement, hrow]
          rfl

/-! ## Bodies -/

theorem feed_inside {line : List Char} (h : IsTidy line) :
    (inside package bs d 0 []).feed line = (inside package bs d 0 []).body .plain line := by
  rw [feed, h.stripComment_eq]
  rfl

/-- The lines of a body complete the block, if the front of the first line opens it. -/
theorem foldl_feed_bodyLines {s : Scanner} {front : List Char} {d : Draft}
    (h : ∀ line, IsTidy line →
      s.feed (front ++ line) = (inside package bs d 0 []).body .plain line)
    (m : Margin) (row : Row) (rows : List Row) :
    (bodyLines front m row rows).foldl feed s =
      idle package
        (bs ++ [(d.absorbAll ((row :: rows).flatten.map Prod.snd)).toBlock package]) := by
  induction rows generalizing s front d row with
  | nil =>
      have hline : IsTidy (rowText row ++ (m.chars ++ ['}'])) :=
        (isTidy_rowText row).trans (isTidy_close m)
      have hrow := body_row (fun d => idle package (bs ++ [d.toBlock package]))
        (fun d st => body_close m st) d row
      rw [bodyLines, List.foldl_cons, List.foldl_nil, h _ hline, hrow]
      simp
  | cons next rows ih =>
      -- behind its first line the body stands in front of every line by itself
      have hrow := body_row (fun d => inside package bs d 0 []) (fun d st => body_nil st) d row
      rw [List.append_nil] at hrow
      rw [bodyLines, List.foldl_cons, h _ (isTidy_rowText row), hrow,
        ih fun line hline => feed_inside hline]
      simp [Draft.absorbAll]

end Scanner

end Guardrail.Rego
