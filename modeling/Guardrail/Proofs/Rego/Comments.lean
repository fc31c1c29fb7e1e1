import Guardrail.Proofs.Rego.Scanning
import Mathlib.Data.List.Forall2

/-!
# Comments and breaks

The scanner sees the lines of a text without their comments. A comment behind a line cannot be seen
if the line had one before or has closed its strings, and a carriage return in front of a line feed
cannot be seen either. In a string `#` begins no comment, and where the scanner meets it in the body
of a rule it belongs to the open statement.
-/

namespace Guardrail.Rego

/-! ## Comments on a line -/

/-- The place behind a text that stands at the beginning of a line. -/
def Quoting.behind (cs : List Char) : Quoting :=
  cs.foldl Quoting.next .plain

theorem uncommented_append_of_eq {q : Quoting} {front : List Char} (h : uncommented q front = front)
    (back : List Char) :
    uncommented q (front ++ back) = front ++ uncommented (front.foldl Quoting.next q) back := by
  induction front generalizing q with
  | nil => rfl
  | cons c front ih =>
      rw [uncommented] at h
      rw [List.cons_append, uncommented]
      split at h
      · exact absurd h (List.cons_ne_nil c front).symm
      · rename_i hc
        rw [if_neg hc, ih (List.cons.inj h).2, List.foldl_cons, List.cons_append]

/-- Nothing behind a comment counts. -/
theorem uncommented_append_of_ne {q : Quoting} {front : List Char} (h : uncommented q front ≠ front)
    (back : List Char) : uncommented q (front ++ back) = uncommented q front := by
  induction front generalizing q with
  | nil => exact absurd rfl h
  | cons c front ih =>
      rw [uncommented] at h ⊢
      rw [List.cons_append, uncommented]
      split at h
      · rename_i hc
        rw [if_pos hc, if_pos hc]
      · rename_i hc
        have hfront : uncommented (q.next c) front ≠ front := fun he => h (by rw [he])
        rw [if_neg hc, if_neg hc, ih hfront]

theorem uncommented_uncommented (q : Quoting) (line : List Char) :
    uncommented q (uncommented q line) = uncommented q line := by
  induction line generalizing q with
  | nil => rfl
  | cons c cs ih =>
      by_cases hc : q = .plain ∧ c = '#'
      · rw [uncommented, if_pos hc, uncommented]
      · rw [uncommented, if_neg hc, uncommented, if_neg hc, ih]

/-- A line has a comment, or its strings are closed at its end. -/
def TakesComment (line : List Char) : Prop :=
  stripComment line ≠ line ∨ Quoting.behind line = .plain

instance (line : List Char) : Decidable (TakesComment line) :=
  inferInstanceAs (Decidable (stripComment line ≠ line ∨ Quoting.behind line = .plain))

theorem stripComment_append_comment {line : List Char} (h : TakesComment line)
    (comment : List Char) : stripComment (line ++ '#' :: comment) = stripComment line := by
  by_cases hline : stripComment line = line
  · have hplain : line.foldl Quoting.next .plain = .plain := h.resolve_left (not_not_intro hline)
    have hcomment : uncommented .plain ('#' :: comment) = [] := by
      rw [uncommented, if_pos ⟨rfl, rfl⟩]
    have hboth : stripComment (line ++ '#' :: comment) =
        line ++ uncommented (line.foldl Quoting.next .plain) ('#' :: comment) :=
      uncommented_append_of_eq hline _
    rw [hboth, hplain, hcomment, List.append_nil, hline]
  · exact uncommented_append_of_ne hline _

theorem uncommented_prefix (q : Quoting) (line : List Char) : uncommented q line <+: line := by
  induction line generalizing q with
  | nil => exact List.prefix_rfl
  | cons c cs ih =>
      rw [uncommented]
      split
      · exact List.nil_prefix
      · exact List.cons_prefix_cons.mpr ⟨rfl, ih _⟩

/-- In a string `#` is kept, and only behind it a comment may begin. -/
theorem stripComment_append_hash {front : List Char} (hfront : stripComment front = front)
    (hquoted : Quoting.behind front ≠ .plain) (back : List Char) :
    stripComment (front ++ '#' :: back) =
      front ++ '#' :: uncommented ((Quoting.behind front).next '#') back := by
  have hhash : uncommented (Quoting.behind front) ('#' :: back) =
      '#' :: uncommented ((Quoting.behind front).next '#') back := by
    rw [uncommented, if_neg fun h => hquoted h.1]
  rw [← hhash]
  exact uncommented_append_of_eq hfront _

/-! ## Comments in a text -/

/-- The line with a comment behind it, if one is given. -/
def annotated (l : Text.Line) (comment? : Option (List Char)) : List Char :=
  l.chars ++ comment?.elim [] (List.cons '#') ++ l.ending

/-- A comment without a line feed for a line that takes one, or none. -/
def Fits (l : Text.Line) (comment? : Option (List Char)) : Prop :=
  ∀ comment ∈ comment?, '\n' ∉ comment ∧ TakesComment l.chars

instance (l : Text.Line) (comment? : Option (List Char)) : Decidable (Fits l comment?) :=
  inferInstanceAs (Decidable (∀ comment ∈ comment?, '\n' ∉ comment ∧ TakesComment l.chars))

/-- The text with comments behind its lines. -/
def withComments (cs : List Char) (comments : List (Option (List Char))) : List Char :=
  (List.zipWith annotated (Text.cut cs) comments).flatten

/-- What the scanner sees of a text. -/
def seen (cs : List Char) : List (List Char) :=
  (Text.cut cs).map fun l => stripComment l.chars

theorem stripComment_append_elim {line : List Char} {comment? : Option (List Char)}
    (hfit : ∀ comment ∈ comment?, TakesComment line) :
    stripComment (line ++ comment?.elim [] (List.cons '#')) = stripComment line := by
  cases comment? with
  | none => rw [Option.elim_none, List.append_nil]
  | some comment => exact stripComment_append_comment (hfit comment rfl) comment

/-- The carriage return that ends a line may follow its comment. -/
theorem stripComment_dropReturn_append_elim {line ending : List Char}
    {comment? : Option (List Char)} (hline : line = Text.dropReturn line ++ ending)
    (hfit : ∀ comment ∈ comment?, TakesComment (Text.dropReturn line)) :
    stripComment (Text.dropReturn
        (Text.dropReturn line ++ (comment?.elim [] (List.cons '#') ++ ending))) =
      stripComment (Text.dropReturn line) := by
  cases comment? with
  | none => rw [Option.elim_none, List.nil_append, ← hline]
  | some comment =>
      rw [Option.elim_some, List.cons_append, Text.dropReturn_append_cons _ (by decide)]
      exact stripComment_append_comment (hfit comment rfl) _

theorem break_notMem_elim {comment? : Option (List Char)} (h : ∀ comment ∈ comment?, '\n' ∉ comment) :
    '\n' ∉ comment?.elim [] (List.cons '#') := by
  cases comment? with
  | none => exact List.not_mem_nil
  | some comment => simpa using h comment rfl

theorem seen_of_no_break {line : List Char} (h : '\n' ∉ line) : seen line = [stripComment line] := by
  rw [seen, Text.cut_of_no_break h, List.map_singleton]

theorem seen_append_break {line : List Char} (h : '\n' ∉ line) (rest : List Char) :
    seen (line ++ '\n' :: rest) = stripComment (Text.dropReturn line) :: seen rest := by
  rw [seen, Text.cut_append_break h, List.map_cons, ← seen, Text.Line.ofBroken]

theorem seen_annotated (current cs : List Char) {comments : List (Option (List Char))}
    (hcurrent : '\n' ∉ current) (h : List.Forall₂ Fits (Text.cutFrom current cs) comments) :
    seen (List.zipWith annotated (Text.cutFrom current cs) comments).flatten =
      (Text.cutFrom current cs).map fun l => stripComment l.chars := by
  induction cs generalizing current comments with
  | nil =>
      obtain ⟨comment?, _, hfit, hnil, rfl⟩ := List.forall₂_cons_left_iff.mp h
      obtain rfl := List.forall₂_nil_left_iff.mp hnil
      have hbreak : '\n' ∉ current.reverse ++ comment?.elim [] (List.cons '#') := by
        simpa using ⟨hcurrent, break_notMem_elim fun comment hc => (hfit comment hc).1⟩
      have htext : (List.zipWith annotated (Text.cutFrom current []) [comment?]).flatten =
          current.reverse ++ comment?.elim [] (List.cons '#') := by
        simp [Text.cutFrom, annotated]
      rw [htext, seen_of_no_break hbreak,
        stripComment_append_elim fun comment hc => (hfit comment hc).2, Text.cutFrom,
        List.map_singleton]
  | cons c cs ih =>
      by_cases hc : c = '\n'
      · rw [Text.cutFrom, if_pos hc] at h ⊢
        obtain ⟨comment?, comments', hfit, hrest, rfl⟩ := List.forall₂_cons_left_iff.mp h
        obtain ⟨ending, hline, hbroken⟩ := Text.Line.exists_ofBroken_eq current.reverse
        rw [hbroken] at hfit ⊢
        have hbreak : '\n' ∉ Text.dropReturn current.reverse ++
            (comment?.elim [] (List.cons '#') ++ ending) := by
          have hreverse : '\n' ∉ current.reverse := by simpa using hcurrent
          rw [hline, List.mem_append, not_or] at hreverse
          simpa using ⟨hreverse.1, break_notMem_elim fun comment hc => (hfit comment hc).1,
            hreverse.2⟩
        have htext : (List.zipWith annotated
            (⟨Text.dropReturn current.reverse, ending ++ ['\n']⟩ :: Text.cutFrom [] cs)
              (comment? :: comments')).flatten =
            (Text.dropReturn current.reverse ++ (comment?.elim [] (List.cons '#') ++ ending)) ++
              '\n' :: (List.zipWith annotated (Text.cutFrom [] cs) comments').flatten := by
          simp [annotated]
        rw [htext, seen_append_break hbreak,
          stripComment_dropReturn_append_elim hline fun comment hc => (hfit comment hc).2,
          ih [] List.not_mem_nil hrest, List.map_cons]
      · rw [Text.cutFrom, if_neg hc] at h ⊢
        exact ih _ (by simp [hcurrent, Ne.symm hc]) h

theorem seen_withComments {cs : List Char} {comments : List (Option (List Char))}
    (h : List.Forall₂ Fits (Text.cut cs) comments) : seen (withComments cs comments) = seen cs :=
  seen_annotated [] cs List.not_mem_nil h

theorem feed_stripComment (s : Scanner) (line : List Char) :
    s.feed (stripComment line) = s.feed line := by
  have hline : stripComment (stripComment line) = stripComment line := uncommented_uncommented _ _
  simp only [Scanner.feed, hline]

theorem blocks_eq_foldl_seen (text : String) :
    blocks text = ((seen text.toList).foldl Scanner.feed Scanner.start).blocks := by
  have hseen : seen text.toList = ((Text.cut text.toList).map Text.Line.chars).map stripComment := by
    simp [seen]
  rw [blocks, hseen, List.foldl_map]
  simp only [feed_stripComment]
  rcases Text.lines_eq text.toList with h | h
  · rw [h]
  · rw [← h, List.foldl_append]
    exact (Scanner.concurs_feed_nil _).blocks.symm

/-! ## Hashes in strings -/

namespace Scanner

/-- The scanner behind `front`, read in the body of a rule that does not end there. -/
def within? (s : Scanner) (q : Quoting) : (front : List Char) → Option Scanner
  | [] => some s
  | c :: cs =>
    if q = .plain then
      if c = '}' ∧ s.depth ≤ 1 then none else (s.plain c).within? (q.next c) cs
    else (s.push c).within? (q.next c) cs

/-- In the body of a rule, reading the rest of a line comes to the scanner `t` in the body of the
same or of a later rule, with `rest` left of the line. -/
inductive ComesTo (t : Scanner) (p : Quoting) (rest : List Char) :
    Scanner → Quoting → List Char → Prop where
  | here : ComesTo t p rest t p rest
  | quoted {s : Scanner} {q : Quoting} {c : Char} {cs : List Char} (hq : q ≠ .plain)
      (h : ComesTo t p rest (s.push c) (q.next c) cs) : ComesTo t p rest s q (c :: cs)
  | plain {s : Scanner} {c : Char} {cs : List Char} (hc : ¬(c = '}' ∧ s.depth ≤ 1))
      (h : ComesTo t p rest (s.plain c) (Quoting.plain.next c) cs) : ComesTo t p rest s .plain (c :: cs)
  | closed {s s' : Scanner} {cs opened : List Char} {head : Head} (hdepth : s.depth ≤ 1)
      (hd : s.closeRule.declare (Text.trim cs) = (s', some (head, opened)))
      (h : ComesTo t p rest (s'.openRule head) .plain opened) : ComesTo t p rest s .plain ('}' :: cs)

/-- Reading a line comes to the scanner `t` in the body of a rule, with `rest` left of what the
scanner sees of the line. -/
inductive Meets (s : Scanner) (line : List Char) (t : Scanner) (p : Quoting) (rest : List Char) :
    Prop where
  | inside (hs : s.mode ≠ .outside) (h : ComesTo t p rest s .plain (stripComment line))
  | opened {s' : Scanner} {head : Head} {opened : List Char} (hs : s.mode = .outside)
      (hd : s.declare (Text.trim (stripComment line)) = (s', some (head, opened)))
      (h : ComesTo t p rest (s'.openRule head) .plain opened)

variable {s t : Scanner} {q p : Quoting} {line rest : List Char}

theorem ComesTo.body_eq (h : ComesTo t p rest s q line) : s.body q line = t.body p rest := by
  induction h with
  | here => rfl
  | quoted hq _ ih => rw [body, if_neg hq, ih]
  | plain hc _ ih => rw [body, if_pos rfl, if_neg hc, ih]
  | closed hdepth hd _ ih =>
      rw [body, if_pos rfl, if_pos ⟨rfl, hdepth⟩, outside_of_declare_some hd, ih]

theorem Meets.feed_eq (h : s.Meets line t p rest) : s.feed line = t.body p rest := by
  cases h with
  | inside hs h => rw [feed_eq_body hs, h.body_eq]
  | opened hs hd h => rw [feed_eq_outside hs, outside_of_declare_some hd, h.body_eq]

theorem body_append_of_within? {front : List Char} (h : s.within? q front = some t)
    (rest : List Char) : s.body q (front ++ rest) = t.body (front.foldl Quoting.next q) rest := by
  induction front generalizing s q with
  | nil =>
      obtain rfl := Option.some.inj h
      rfl
  | cons c cs ih =>
      rw [within?] at h
      rw [List.cons_append, body, List.foldl_cons]
      split at h
      · rename_i hq
        split at h
        · exact absurd h (by simp)
        · rename_i hc
          rw [if_pos hq, if_neg hc, ih h]
      · rename_i hq
        rw [if_neg hq, ih h]

/-- `#` has no meaning in the body of a rule. -/
theorem body_hash (s : Scanner) (q : Quoting) (cs : List Char) :
    s.body q ('#' :: cs) = (s.push '#').body (q.next '#') cs := by
  have hplain : s.plain '#' = s.push '#' := by simp [plain]
  have hbrace : ¬('#' = '}' ∧ s.depth ≤ 1) := by simp
  rw [body, if_neg hbrace, hplain, ite_self]

end Scanner

/-! ## What cannot be seen -/

/-- A comment behind a line, which may hold quotes, braces and semicolons, does not change the
blocks of a text, and neither do carriage returns in front of its line feeds. A `#` in a string is
no comment: it stays on the line, and where the scanner meets it in the body of a rule it becomes
the next character of the statement. -/
theorem blocks_withComments_withReturns :
    (∀ (text : String) comments, List.Forall₂ Fits (Text.cut text.toList) comments →
        blocks (.ofList (withComments text.toList comments)) = blocks text) ∧
      (∀ text : String, '\r' ∉ text.toList →
        blocks (.ofList (Text.withReturns text.toList)) = blocks text) ∧
      ∀ front back, stripComment front = front → Quoting.behind front ≠ .plain →
        ∃ kept, kept <+: back ∧ stripComment (front ++ '#' :: back) = front ++ '#' :: kept ∧
          (∀ s : Scanner, s.mode ≠ .outside →
            s.Meets (front ++ '#' :: back) s .plain (front ++ '#' :: kept)) ∧
          ∀ (s t u : Scanner) inner rest,
            s.Meets (front ++ '#' :: back) t .plain (inner ++ '#' :: rest) →
            t.within? .plain inner = some u →
            s.feed (front ++ '#' :: back) =
              (u.push '#').body ((Quoting.behind inner).next '#') rest := by
  refine ⟨fun text comments h => ?comments, fun text h => ?returns,
    fun front back hfront hquoted => ?hashes⟩
  case comments =>
    rw [blocks_eq_foldl_seen, blocks_eq_foldl_seen, String.toList_ofList, seen_withComments h]
  case returns =>
    rw [blocks, blocks, String.toList_ofList, Text.lines_withReturns h]
  case hashes =>
    have hstrip := stripComment_append_hash hfront hquoted back
    refine ⟨_, uncommented_prefix _ back, hstrip, fun s hs => .inside hs ?_,
      fun s t u inner rest hmeets hwithin => ?_⟩
    · rw [hstrip]
      exact .here
    · rw [hmeets.feed_eq, Scanner.body_append_of_within? hwithin, Scanner.body_hash, Quoting.behind]

/-- A comment behind a comment and one behind a closed string, and a `#` in a string. -/
theorem blocks_withComments_withReturns_msg :
    let text := "package a # \"\ndeny \x7b\r\n  msg := \"b # c\"\n\x7d"
    let comments := [some [';'], some "\"\x7d".toList, some ['\x60'], none]
    let bare := "package a\ndeny \x7b\n  msg := \"b # c\"\n\x7d"
    let front := "msg := \"b ".toList
    let back := " c\" # d".toList
    let s := Scanner.start.openRule ⟨"deny", none⟩
    List.Forall₂ Fits (Text.cut text.toList) comments ∧
      blocks (.ofList (withComments text.toList comments)) = blocks text ∧
      '\r' ∉ bare.toList ∧
      blocks (.ofList (Text.withReturns bare.toList)) = blocks bare ∧
      stripComment front = front ∧ Quoting.behind front ≠ .plain ∧
      ∃ kept, kept <+: back ∧ s.feed (front ++ '#' :: back) =
        Scanner.body { s with statement := '#' :: front.reverse } (.quoted '\"') kept := by
  intro text comments bare front back s
  have hfits : List.Forall₂ Fits (Text.cut text.toList) comments := by decide
  have hbare : '\r' ∉ bare.toList := by decide
  have hfront : stripComment front = front := by decide
  have hquoted : Quoting.behind front ≠ .plain := by decide
  obtain ⟨hcomments, hreturns, hhashes⟩ := blocks_withComments_withReturns
  obtain ⟨kept, hkept, -, hinside, hfeed⟩ := hhashes front back hfront hquoted
  have hwithin : s.within? .plain front = some { s with statement := front.reverse } := by rfl
  exact ⟨hfits, hcomments text comments hfits, hbare, hreturns bare hbare, hfront, hquoted, kept,
    hkept, hfeed s s _ front kept (hinside s (by decide)) hwithin⟩

end Guardrail.Rego
