import Guardrail.Proofs.Rego.Layout
import Guardrail.Proofs.Text.Lines

/-!
# Lines of policy texts

No line of a layout has a comment, a break or a blank at its end. So the lines of the text are the
lines that it was put together from, and the scanner meets each of them whole.
-/

namespace Guardrail.Rego

/-! ## Texts without comments -/

/-- A text on one line that is kept in front of whatever follows it. -/
structure IsQuiet (cs : List Char) : Prop where
  strip : ∀ rest, stripComment (cs ++ rest) = cs ++ stripComment rest
  no_break : '\n' ∉ cs

theorem isQuiet_nil : IsQuiet [] := ⟨fun _ => rfl, List.not_mem_nil⟩

theorem IsQuiet.append {front cs : List Char} (hf : IsQuiet front) (h : IsQuiet cs) :
    IsQuiet (front ++ cs) := by
  refine ⟨?_, ?_⟩
  · intro rest
    rw [List.append_assoc, hf.strip, h.strip, List.append_assoc]
  · simp [hf.no_break, h.no_break]

/-- Whether a character neither begins a string or a comment nor ends a line. -/
def isOrdinary (c : Char) : Bool :=
  c ≠ '#' && !isQuoteMark c && c ≠ '\n'

theorem isQuiet_of_all {cs : List Char} (h : cs.all isOrdinary = true) : IsQuiet cs := by
  induction cs with
  | nil => exact isQuiet_nil
  | cons c cs ih =>
      simp only [List.all_cons, Bool.and_eq_true, isOrdinary, decide_eq_true_eq,
        Bool.not_eq_true'] at h
      obtain ⟨⟨⟨hc, hq⟩, hb⟩, hcs⟩ := h
      have hcs : IsQuiet cs := ih hcs
      refine ⟨?_, ?_⟩
      · intro rest
        have hnext : Quoting.plain.next c = .plain := by
          simp [Quoting.next, hq]
        rw [stripComment, List.cons_append, uncommented, if_neg (by simp [hc]), hnext]
        exact congrArg (List.cons c) (hcs.strip rest)
      · simp [Ne.symm hb, hcs.no_break]

theorem isOrdinary_of_isNameChar {c : Char} (h : isNameChar c = true) : isOrdinary c = true := by
  have hb := toNat_bounds_of_isNameChar h
  have hne : c ≠ '#' ∧ c ≠ '"' ∧ c ≠ '\n' := by
    refine ⟨?_, ?_, ?_⟩ <;> rintro rfl <;> simp at hb
  have hback : c ≠ '\x60' := by
    rintro rfl
    exact absurd h (by decide)
  simp [isOrdinary, isQuoteMark, hne, hback]

theorem uncommented_closed {q : Quoting} {depth : Nat} {cs : List Char}
    (h : isClosed q depth cs = true) (rest : List Char) :
    uncommented q (cs ++ rest) = cs ++ stripComment rest := by
  induction cs generalizing q depth with
  | nil =>
      simp only [isClosed, Bool.and_eq_true, decide_eq_true_eq] at h
      obtain ⟨rfl, -⟩ := h
      rfl
  | cons c cs ih =>
      by_cases hq : q = .plain
      · subst hq
        obtain ⟨hc, depth', hcs, -⟩ := isClosed_cons h
        rw [List.cons_append, uncommented, if_neg (by simp [hc]), ih hcs, List.cons_append]
      · rw [isClosed, if_pos hq] at h
        rw [List.cons_append, uncommented, if_neg (by simp [hq]), ih h, List.cons_append]

theorem StatementText.isQuiet (s : StatementText) : IsQuiet s.chars :=
  ⟨uncommented_closed s.closed, s.no_break⟩

theorem Margin.isQuiet (m : Margin) : IsQuiet m.chars := by
  apply isQuiet_of_all
  rw [List.all_eq_true]
  intro c hc
  rcases m.forall_mem c hc with rfl | rfl <;> decide

theorem Name.isQuiet (n : Name) : IsQuiet n.chars := by
  apply isQuiet_of_all
  rw [List.all_eq_true]
  intro c hc
  exact isOrdinary_of_isNameChar (n.isNameChar_of_mem hc)

/-! ## Lines of a layout -/

/-- A line without a comment and without blanks at its end. -/
structure IsTidy (line : List Char) : Prop extends IsQuiet line where
  tight : Text.dropEndWhile Text.isBlank line = line

theorem isTidy_nil : IsTidy [] := ⟨isQuiet_nil, rfl⟩

theorem IsTidy.stripComment_eq {line : List Char} (h : IsTidy line) : stripComment line = line := by
  have hs := h.strip []
  have hnil : stripComment [] = [] := rfl
  rwa [hnil, List.append_nil] at hs

theorem IsTidy.trim_eq {line : List Char} (h : IsTidy line)
    (hhead : ∀ c ∈ line.head?, Text.isBlank c = false) : Text.trim line = line :=
  Text.trim_eq_self hhead h.tight

theorem IsTidy.append {front line : List Char} (hf : IsQuiet front) (h : IsTidy line)
    (hne : line ≠ []) : IsTidy (front ++ line) :=
  ⟨hf.append h.toIsQuiet, Text.dropEndWhile_append_of_eq_self front hne h.tight⟩

theorem IsTidy.trans {front line : List Char} (hf : IsTidy front) (h : IsTidy line) :
    IsTidy (front ++ line) := by
  by_cases hne : line = []
  · rwa [hne, List.append_nil]
  · exact .append hf.toIsQuiet h hne

theorem IsTidy.cons {c : Char} {line : List Char} (hc : isOrdinary c = true)
    (hb : Text.isBlank c = false) (h : IsTidy line) : IsTidy (c :: line) := by
  have hq : IsQuiet [c] := isQuiet_of_all (by simp [hc])
  exact ⟨hq.append h.toIsQuiet, Text.dropEndWhile_cons_of_eq_self hb h.tight⟩

theorem StatementText.isTidy (s : StatementText) : IsTidy s.chars :=
  ⟨s.isQuiet, Text.dropEndWhile_of_trim_eq_self s.trim_eq⟩

theorem Name.isTidy (n : Name) : IsTidy n.chars :=
  ⟨n.isQuiet, Text.dropEndWhile_of_forall_not fun _ hc =>
    not_isBlank_of_isNameChar (n.isNameChar_of_mem hc)⟩

theorem rowText_cons_ne_nil (m : Margin) (s : StatementText) (row : Row) :
    rowText ((m, s) :: row) ≠ [] := by
  cases row <;> simp [rowText, s.ne_nil]

theorem isTidy_rowText (row : Row) : IsTidy (rowText row) := by
  induction row with
  | nil => exact isTidy_nil
  | cons part row ih =>
      obtain ⟨m, s⟩ := part
      cases row with
      | nil => exact .append m.isQuiet s.isTidy s.ne_nil
      | cons next row =>
          have hsep : IsQuiet [';'] := isQuiet_of_all (by decide)
          have hfront : IsQuiet (m.chars ++ s.chars ++ [';']) :=
            (m.isQuiet.append s.isQuiet).append hsep
          have ht := IsTidy.append hfront ih (rowText_cons_ne_nil next.1 next.2 row)
          rwa [List.append_assoc (m.chars ++ s.chars)] at ht

theorem isTidy_close (m : Margin) : IsTidy (m.chars ++ ['}']) :=
  .append m.isQuiet (.cons (by decide) (by decide) isTidy_nil) (by simp)

/-- A line of a body behind a front that may be empty. -/
theorem isTidy_of_mem_bodyLines {front : List Char} {m : Margin} {row : Row} {rows : List Row}
    (h : ∀ line, IsTidy line → IsTidy (front ++ line)) :
    ∀ l ∈ bodyLines front m row rows, IsTidy l := by
  induction rows generalizing front row with
  | nil =>
      intro l hl
      rw [bodyLines, List.mem_singleton] at hl
      rw [hl]
      exact h _ (.append (isTidy_rowText row).toIsQuiet (isTidy_close m) (by simp))
  | cons next rows ih =>
      intro l hl
      rw [bodyLines] at hl
      rcases List.mem_cons.mp hl with rfl | hl
      · exact h _ (isTidy_rowText row)
      · have hempty : ∀ line, IsTidy line → IsTidy ([] ++ line) := fun _ hline => hline
        exact ih hempty l hl

theorem HeadBinding.isTidy_text (b : HeadBinding) : IsTidy b.text := by
  cases b with
  | absent => exact isTidy_nil
  | bracketed v =>
      have hclose : IsTidy [']'] := .cons (by decide) (by decide) isTidy_nil
      exact .cons (by decide) (by decide) (v.isTidy.trans hclose)
  | contained v =>
      have hword : IsQuiet "contains".toList := isQuiet_of_all (by decide)
      have hspace : IsQuiet [' '] := isQuiet_of_all (by decide)
      exact .append hspace (.append hword (.append hspace v.isTidy v.ne_nil) (by simp)) (by simp)

namespace RuleText

theorem isTidy_headText (r : RuleText) : IsTidy r.headText := by
  have hif : IsTidy (ifText r.hasIf) := by
    cases r.hasIf with
    | false => exact isTidy_nil
    | true => exact ⟨isQuiet_of_all (by decide), by decide⟩
  exact r.head.isTidy.trans (r.binding.isTidy_text.trans hif)

theorem isTidy_braceText_append (r : RuleText) {line : List Char} (h : IsTidy line) :
    IsTidy (r.braceText ++ line) := by
  rw [braceText, List.append_assoc]
  exact .append r.beforeBrace.isQuiet (.cons (by decide) (by decide) h) (by simp)

theorem isTidy_of_mem_lines (r : RuleText) : ∀ l ∈ r.lines, IsTidy l := by
  intro l hl
  rw [lines] at hl
  rcases List.mem_append.mp hl with hl | hl
  · rw [List.eq_of_mem_replicate hl]
    exact isTidy_nil
  · have hhead : IsTidy (r.beforeHead.chars ++ r.headText) :=
      .append r.beforeHead.isQuiet r.isTidy_headText (by simp [headText, r.head.ne_nil])
    split at hl
    · rcases List.mem_cons.mp hl with rfl | hl
      · exact hhead
      · exact isTidy_of_mem_bodyLines (fun _ h => r.isTidy_braceText_append h) l hl
    · refine isTidy_of_mem_bodyLines (fun line h => ?_) l hl
      have hline := hhead.trans (r.isTidy_braceText_append h)
      simpa [List.append_assoc] using hline

end RuleText

namespace PolicyText

theorem isTidy_of_mem_lines (t : PolicyText) : ∀ l ∈ t.lines, IsTidy l := by
  intro l hl
  rw [lines] at hl
  rcases List.mem_cons.mp hl with rfl | hl
  · have hq : IsQuiet t.package := by
      apply isQuiet_of_all
      rw [List.all_eq_true]
      intro c hc
      rcases isNameChar_or_eq_dot t.dotted hc with hn | rfl
      · exact isOrdinary_of_isNameChar hn
      · decide
    have ht : IsTidy t.package :=
      ⟨hq, Text.dropEndWhile_of_forall_not fun _ hc => not_isBlank_of_mem_dotted t.dotted hc⟩
    have hword : IsQuiet "package".toList := isQuiet_of_all (by decide)
    have hspace : IsQuiet [' '] := isQuiet_of_all (by decide)
    exact .append hword (.append hspace ht (ne_nil_of_dotted t.dotted)) (by simp)
  · obtain ⟨r, -, hr⟩ := List.mem_flatMap.mp hl
    exact r.isTidy_of_mem_lines l hr

end PolicyText

/-! ## The lines of the text -/

/-- Whether the last line, if there is one, has a character. -/
def EndsOnText (ls : List (List Char)) : Prop :=
  ls.getLast? ≠ some []

theorem EndsOnText.append (front : List (List Char)) {ls : List (List Char)} (h : EndsOnText ls)
    (hne : ls ≠ []) : EndsOnText (front ++ ls) := by
  rw [EndsOnText, List.getLast?_eq_some_getLast hne] at h
  rwa [EndsOnText, List.getLast?_append, List.getLast?_eq_some_getLast hne, Option.some_or]

theorem endsOnText_bodyLines (front : List Char) (m : Margin) (row : Row) (rows : List Row) :
    EndsOnText (bodyLines front m row rows) ∧ bodyLines front m row rows ≠ [] := by
  induction rows generalizing front row with
  | nil => simp [bodyLines, EndsOnText]
  | cons next rows ih =>
      obtain ⟨h, hne⟩ := ih [] next
      exact ⟨.append [_] h hne, List.cons_ne_nil _ _⟩

theorem RuleText.endsOnText_lines (r : RuleText) : EndsOnText r.lines ∧ r.lines ≠ [] := by
  rw [lines]
  split
  · obtain ⟨h, hne⟩ := endsOnText_bodyLines r.braceText r.beforeClose r.firstRow r.moreRows
    have hcons : EndsOnText ((r.beforeHead.chars ++ r.headText) :: _) := .append [_] h hne
    exact ⟨hcons.append _ (List.cons_ne_nil _ _), by simp⟩
  · obtain ⟨h, hne⟩ := endsOnText_bodyLines (r.beforeHead.chars ++ (r.headText ++ r.braceText))
      r.beforeClose r.firstRow r.moreRows
    exact ⟨h.append _ hne, by simp [hne]⟩

namespace PolicyText

theorem endsOnText_lines (t : PolicyText) : EndsOnText t.lines := by
  have hrules : ∀ rs : List RuleText, EndsOnText (rs.flatMap RuleText.lines) := by
    intro rs
    induction rs with
    | nil => simp [EndsOnText]
    | cons r rs ih =>
        rw [List.flatMap_cons]
        by_cases hne : rs.flatMap RuleText.lines = []
        · rw [hne, List.append_nil]
          exact r.endsOnText_lines.1
        · exact ih.append _ hne
  rw [lines]
  by_cases hne : t.rules.flatMap RuleText.lines = []
  · rw [hne]
    simp [EndsOnText]
  · exact (hrules t.rules).append [_] hne

/-- The lines of the text are the lines of the layout. -/
theorem lines_text (t : PolicyText) : Text.lines t.text.toList = t.lines := by
  rw [text, String.toList_ofList]
  refine Text.lines_intercalate ?_ ?_
  · intro l hl
    have ht := t.isTidy_of_mem_lines l hl
    exact ⟨ht.no_break, ht.tight⟩
  · by_cases he : t.endsWithBreak = true
    · exact .inl ⟨if_pos he, List.cons_ne_nil _ _⟩
    · exact .inr ⟨if_neg he, t.endsOnText_lines⟩

end PolicyText

end Guardrail.Rego
