import Guardrail.Proofs.Rego.Lines
import Guardrail.Proofs.Rego.Statements

/-!
# Statements on a line

A statement that is understood closes its strings and brackets, and it has no blanks at its ends.
So it can stand in a layout, if it is on one line.
-/

namespace Guardrail.Rego

/-! ## Texts that close what they open -/

/-- A text that leaves strings and brackets as they were in front of it. -/
def Closes (cs : List Char) : Prop :=
  ∀ depth rest, isClosed .plain depth (cs ++ rest) = isClosed .plain depth rest

/-- The characters that open or close something, or that end a statement. -/
def marks : List Char := ['"', '\x60', '{', '[', '(', '}', ']', ')', '#', ';']

namespace Closes

variable {cs ds : List Char}

theorem nil : Closes [] := fun _ _ => rfl

theorem append (hc : Closes cs) (hd : Closes ds) : Closes (cs ++ ds) := by
  intro depth rest
  rw [List.append_assoc, hc, hd]

theorem isClosed (h : Closes cs) : isClosed .plain 0 cs = true := by
  have hnil := h 0 []
  rwa [List.append_nil] at hnil

theorem singleton {c : Char} (h : c ∉ marks) : Closes [c] := by
  intro depth rest
  simp only [marks, List.mem_cons, List.not_mem_nil, or_false, not_or] at h
  simp [Rego.isClosed, Quoting.next, isQuoteMark, h]

/-- A text of characters of one kind, to which no mark belongs. -/
theorem of_forall {p : Char → Bool} (hp : marks.any p = false) (h : ∀ c ∈ cs, p c = true) :
    Closes cs := by
  induction cs with
  | nil => exact nil
  | cons c cs ih =>
      have hc : c ∉ marks := by
        intro hm
        exact List.any_eq_false.mp hp c hm (h c List.mem_cons_self)
      exact (singleton hc).append (ih fun d hd => h d (List.mem_cons_of_mem c hd))

theorem bracketed (h : Closes cs) : Closes ('[' :: (cs ++ [']'])) := by
  intro depth rest
  have hcs := h (depth + 1) (']' :: rest)
  simp [Rego.isClosed, hcs]

theorem parenthesised (h : Closes cs) : Closes ('(' :: (cs ++ [')'])) := by
  intro depth rest
  have hcs := h (depth + 1) (')' :: rest)
  simp [Rego.isClosed, hcs]

theorem raw (h : '\x60' ∉ cs) : Closes ('\x60' :: (cs ++ ['\x60'])) := by
  intro depth rest
  have hinside : Rego.isClosed (.quoted '\x60') depth (cs ++ '\x60' :: rest) =
      Rego.isClosed .plain depth rest := by
    induction cs with
    | nil => simp [Rego.isClosed, Quoting.next]
    | cons c cs ih =>
        obtain ⟨hc, hcs⟩ : c ≠ '\x60' ∧ '\x60' ∉ cs := by simpa [eq_comm] using h
        simp [Rego.isClosed, Quoting.next, hc, ih hcs]
  simp [Rego.isClosed, Quoting.next, isQuoteMark, hinside]

end Closes

/-! ## Strings -/

/-- Characters that neither end a string nor begin an escape in it. -/
theorem isClosed_quoted_append {cs : List Char} (h : ∀ c ∈ cs, c ≠ '"' ∧ c ≠ '\\') (depth : Nat)
    (rest : List Char) :
    isClosed (.quoted '"') depth (cs ++ rest) = isClosed (.quoted '"') depth rest := by
  induction cs with
  | nil => rfl
  | cons c cs ih =>
      obtain ⟨hquote, hslash⟩ := h c List.mem_cons_self
      have hcs := ih fun d hd => h d (List.mem_cons_of_mem c hd)
      simp [isClosed, Quoting.next, hquote, hslash, hcs]

theorem ne_of_mem_hexQuad {quad : List Char} {n : Nat} (h : Json.IsHexQuad quad n) :
    ∀ c ∈ quad, c ≠ '"' ∧ c ≠ '\\' := by
  have hdigit {c : Char} {w : Nat} (hc : Text.hexDigit? c = some w) : c ≠ '"' ∧ c ≠ '\\' := by
    constructor
    all_goals
      rintro rfl
      simp [Text.hexDigit?] at hc
  obtain ⟨ha, hb, hc, hd⟩ := h
  simp [hdigit ha, hdigit hb, hdigit hc, hdigit hd]

theorem isClosed_escape {escape : List Char} {c : Char} (h : Json.IsEscape escape c) (depth : Nat)
    (rest : List Char) :
    isClosed (.quoted '"') depth ('\\' :: (escape ++ rest)) =
      isClosed (.quoted '"') depth rest := by
  cases h with
  | letter h => simp [isClosed, Quoting.next]
  | unit hquad => 
      have hskip := isClosed_quoted_append (ne_of_mem_hexQuad hquad) depth rest
      simp [isClosed, Quoting.next, hskip]
  | pair hhigh hlow => 
      have hskip := isClosed_quoted_append (ne_of_mem_hexQuad hlow) depth rest
      have hskip' := isClosed_quoted_append (ne_of_mem_hexQuad hhigh) depth
      simp [isClosed, Quoting.next, hskip, hskip']

theorem isClosed_string {body s : List Char} (h : Json.IsString body s) (depth : Nat)
    (rest : List Char) :
    isClosed (.quoted '"') depth (body ++ '"' :: rest) = isClosed .plain depth rest := by
  induction h with
  | nil => simp [isClosed, Quoting.next]
  | plain hquote hslash _ _ ih => simp [isClosed, Quoting.next, hquote, hslash, ih]
  | escape he _ ih => simp [isClosed_escape he, ih]

theorem IsQuoted.closes {cs : List Char} {s : String} (h : IsQuoted cs s) : Closes cs := by
  obtain ⟨hbody⟩ := h
  intro depth rest
  simp [isClosed, Quoting.next, isQuoteMark, isClosed_string hbody]

/-! ## Expressions -/

/-- A word that may have dots and dashes in it. -/
theorem Closes.word {cs : List Char}
    (h : cs.all (fun c => isNameChar c || c = '-' || c = '.') = true) : Closes cs :=
  .of_forall (by decide) (List.all_eq_true.mp h)

theorem IsSegment.closes {cs : List Char} {s : String} (h : IsSegment cs s) : Closes cs := by
  cases h with
  | @name c cs hc hcs =>
      refine .word (List.all_eq_true.mpr fun d hd => ?_)
      rcases List.mem_cons.mp hd with rfl | hd
      · simp
      · rcases List.mem_cons.mp hd with rfl | hd
        · simp [isNameChar_of_isNameStart hc]
        · simp [hcs d hd]
  | text hq => exact hq.closes.bracketed
  | index _ hdigits => exact (Closes.of_forall (by decide) hdigits).bracketed

theorem IsSegments.closes {cs : List Char} {path : List String} (h : IsSegments cs path) :
    Closes cs := by
  induction h with
  | nil => exact .nil
  | cons hs _ ih => exact hs.closes.append ih

theorem IsPath.closes {cs : List Char} {field : String} (h : IsPath cs field) : Closes cs := by
  obtain ⟨cs, path, hs, -, rfl, -⟩ := exists_of_isPath h
  have hinput : Closes "input".toList := .word (by decide)
  exact hinput.append hs.closes

theorem IsLiteral.closes {cs : List Char} {v : Json} (h : IsLiteral cs v) : Closes cs := by
  have hword (hcs : ∀ c ∈ cs, Json.Token.isWordChar c = true) : Closes cs :=
    .of_forall (by decide) hcs
  cases h with
  | text hq => exact hq.closes
  | number hn _ => exact hword fun _ => hn.isWordChar_of_mem
  | word h =>
      obtain ⟨-, -, -, -, hchars⟩ := word?_of_mem_literalWords h
      exact hword hchars

theorem IsPattern.closes {cs : List Char} {s : String} (h : IsPattern cs s) : Closes cs := by
  cases h with
  | quoted hq => exact hq.closes
  | raw h => exact .raw h

theorem IsCount.closes {cs : List Char} {n : Nat} (h : IsCount cs n) : Closes cs := by
  obtain ⟨hdigits, -⟩ := h
  exact .of_forall (by decide) hdigits.isDigit_of_mem

theorem IsSign.closes {cs : List Char} {order : SizeOrder} (h : IsSign cs order) : Closes cs := by
  refine .of_forall (p := fun c => c ∈ ['=', '!', '<', '>']) (by decide) (List.all_eq_true.mp ?_)
  rcases isSign_iff.mp h with ⟨rfl, -⟩ | ⟨rfl, -⟩ | ⟨rfl, -⟩ | ⟨rfl, -⟩ | ⟨rfl, -⟩ | ⟨rfl, -⟩ <;>
    decide

theorem IsMirroredSign.closes {cs : List Char} {order : SizeOrder} (h : IsMirroredSign cs order) :
    Closes cs := by
  rw [← flip_flip order, isMirroredSign_flip] at h
  exact h.closes

theorem IsBlanks.closes {cs : List Char} (h : IsBlanks cs) : Closes cs :=
  .of_forall (by decide) h

theorem Padded.closes {α : Type} {L : List Char → α → Prop}
    (hl : ∀ {cs a}, L cs a → Closes cs) {cs : List Char} {a : α} (h : Padded L cs a) :
    Closes cs := by
  obtain ⟨hbefore, hcs, hbehind⟩ := h
  exact hbefore.closes.append ((hl hcs).append hbehind.closes)

/-! ## Statements -/

namespace Closes

theorem comma {cs ds : List Char} (hc : Closes cs) (hd : Closes ds) : Closes (cs ++ ',' :: ds) :=
  hc.append (.append (.singleton (by decide)) hd)

/-- A call, and what stands behind it. -/
theorem call {name arguments rest : List Char} (hn : Closes name) (ha : Closes arguments)
    (hr : Closes rest) : Closes (name ++ '(' :: (arguments ++ ')' :: rest)) := by
  have hall := hn.append (ha.parenthesised.append hr)
  rwa [List.cons_append, List.append_assoc, List.singleton_append] at hall

end Closes

theorem IsStatement.closes {cs : List Char} {c : Condition} (h : IsStatement cs c) :
    Closes cs := by
  cases h with
  | absent hblanks _ hpath =>
      have hnot : Closes "not".toList := .word (by decide)
      exact hnot.append (hblanks.closes.append hpath.closes)
  | present hpath => exact hpath.closes
  | contains hpath hliteral =>
      have hname : Closes "contains".toList := .word (by decide)
      have hall := hname.call
        ((hpath.closes IsPath.closes).comma (hliteral.closes IsLiteral.closes)) .nil
      rwa [List.append_assoc] at hall
  | @pattern call quoted path _ _ hcall hpattern hpath =>
      obtain ⟨name, hname, rfl⟩ : ∃ name, Closes name ∧ call = name ++ ['('] := by
        simp only [List.mem_cons, List.not_mem_nil, or_false] at hcall
        rcases hcall with rfl | rfl
        · exact ⟨"re_match".toList, .word (by decide), rfl⟩
        · exact ⟨"regex.match".toList, .word (by decide), rfl⟩
      have hall := hname.call
        ((hpattern.closes IsPattern.closes).comma (hpath.closes IsPath.closes)) .nil
      rwa [List.append_assoc, List.cons_append, ← List.singleton_append, ← List.append_assoc] at hall
  | size hpath hsign hcount =>
      have hname : Closes "count".toList := .word (by decide)
      exact hname.call (hpath.closes IsPath.closes)
        ((hsign.closes IsSign.closes).append hcount.closes)
  | compare hpath hsign hliteral _ =>
      exact hpath.closes.append ((hsign.closes IsSign.closes).append hliteral.closes)
  | compareMirrored hliteral hsign hpath _ =>
      exact hliteral.closes.append ((hsign.closes IsMirroredSign.closes).append hpath.closes)

/-! ## Ends -/

/-- A text whose last character is no blank. -/
def EndsSolid (cs : List Char) : Prop :=
  ∃ front c, cs = front ++ [c] ∧ Text.isBlank c = false

namespace EndsSolid

variable {cs : List Char}

theorem append_left (front : List Char) (h : EndsSolid cs) : EndsSolid (front ++ cs) := by
  obtain ⟨before, c, rfl, hc⟩ := h
  exact ⟨front ++ before, c, by rw [List.append_assoc], hc⟩

theorem of_forall (hne : cs ≠ []) (h : ∀ c ∈ cs, Text.isBlank c = false) : EndsSolid cs :=
  ⟨cs.dropLast, cs.getLast hne, (List.dropLast_concat_getLast hne).symm,
    h _ (List.getLast_mem hne)⟩

theorem dropEndWhile_eq (h : EndsSolid cs) : Text.dropEndWhile Text.isBlank cs = cs := by
  obtain ⟨front, c, rfl, hc⟩ := h
  refine Text.dropEndWhile_append_of_eq_self front (List.cons_ne_nil c []) ?_
  exact Text.dropEndWhile_of_forall_not (by simpa using hc)

end EndsSolid

theorem IsSegment.endsSolid {cs : List Char} {s : String} (h : IsSegment cs s) : EndsSolid cs := by
  cases h with
  | @name c cs hc hcs =>
      refine .append_left ['.'] (.of_forall (List.cons_ne_nil c cs) fun d hd => ?_)
      rcases List.mem_cons.mp hd with rfl | hd
      · exact not_isBlank_of_isNameChar (isNameChar_of_isNameStart hc)
      · have hchar := hcs d hd
        rw [Bool.or_eq_true, decide_eq_true_eq] at hchar
        rcases hchar with hchar | rfl
        · exact not_isBlank_of_isNameChar hchar
        · decide
  | @text quoted _ _ => exact ⟨'[' :: quoted, ']', rfl, by decide⟩
  | @index digits _ _ => exact ⟨'[' :: digits, ']', rfl, by decide⟩

theorem IsSegments.endsSolid {cs : List Char} {path : List String} (h : IsSegments cs path)
    (hne : path ≠ []) : EndsSolid cs := by
  induction h with
  | nil => contradiction
  | @cons cs ds s path hs hss ih =>
      cases path with
      | nil =>
          cases hss
          rw [List.append_nil]
          exact hs.endsSolid
      | cons t path => exact (ih (List.cons_ne_nil t path)).append_left cs

theorem IsPath.endsSolid {cs : List Char} {field : String} (h : IsPath cs field) :
    EndsSolid cs := by
  obtain ⟨cs, path, hs, hne, rfl, -⟩ := exists_of_isPath h
  exact (hs.endsSolid hne).append_left _

theorem not_isBlank_of_isWordChar {c : Char} (h : Json.Token.isWordChar c = true) :
    Text.isBlank c = false := by
  simp only [Json.Token.isWordChar, Bool.or_eq_true, decide_eq_true_eq] at h
  rcases h with ((h | rfl) | rfl) | rfl
  · exact not_isBlank_of_isNameChar (by simp [isNameChar, h])
  all_goals decide

theorem IsLiteral.endsSolid {cs : List Char} {v : Json} (h : IsLiteral cs v) : EndsSolid cs := by
  cases h with
  | text hq =>
      obtain ⟨hbody⟩ := hq
      rename_i body s
      exact ⟨'"' :: body, '"', rfl, by decide⟩
  | number hn _ =>
      have hne : cs ≠ [] := by
        obtain ⟨c, cs, rfl, -⟩ := hn.exists_cons
        exact List.cons_ne_nil c cs
      exact .of_forall hne fun _ hc => not_isBlank_of_isWordChar (hn.isWordChar_of_mem hc)
  | word h =>
      obtain ⟨-, -, -, hne, hchars⟩ := word?_of_mem_literalWords h
      exact .of_forall hne fun c hc => not_isBlank_of_isWordChar (hchars c hc)

theorem IsCount.endsSolid {cs : List Char} {n : Nat} (h : IsCount cs n) : EndsSolid cs := by
  obtain ⟨hdigits, -⟩ := h
  exact .of_forall hdigits.ne_nil fun _ hc =>
    not_isBlank_of_isWordChar (hdigits.isWordChar_of_mem hc)

theorem IsStatement.endsSolid {cs : List Char} {c : Condition} (h : IsStatement cs c) :
    EndsSolid cs := by
  have hparenthesis (front : List Char) : EndsSolid (front ++ [')']) := ⟨front, ')', rfl, by decide⟩
  cases h with
  | absent _ _ hpath => exact (hpath.endsSolid.append_left _).append_left _
  | present hpath => exact hpath.endsSolid
  | contains => exact (((hparenthesis _).append_left [',']).append_left _).append_left _
  | pattern => exact (((hparenthesis _).append_left [',']).append_left _).append_left _
  | size _ _ hcount =>
      exact (((hcount.endsSolid.append_left _).append_left [')']).append_left _).append_left _
  | compare _ _ hliteral _ => exact (hliteral.endsSolid.append_left _).append_left _
  | compareMirrored _ _ hpath _ => exact (hpath.endsSolid.append_left _).append_left _

/-! ## Beginnings -/

/-- Whether a character may begin a statement. -/
def beginsStatement (c : Char) : Bool :=
  c.isDigit || c ∈ ['i', 'n', 'c', 'r', 't', 'f', '"', '-']

theorem IsStatement.exists_cons {cs : List Char} {c : Condition} (h : IsStatement cs c) :
    ∃ d ds, cs = d :: ds ∧ beginsStatement d = true := by
  have hpath {path : List Char} {field : String} (h : IsPath path field) (rest : List Char) :
      ∃ d ds, path ++ rest = d :: ds ∧ beginsStatement d = true := by
    obtain ⟨cs, _, -, -, rfl, -⟩ := exists_of_isPath h
    exact ⟨'i', _, rfl, by decide⟩
  cases h with
  | absent => exact ⟨'n', _, rfl, by decide⟩
  | present hp =>
      have hp' := hpath hp []
      rwa [List.append_nil] at hp'
  | contains => exact ⟨'c', _, rfl, by decide⟩
  | pattern hcall =>
      simp only [List.mem_cons, List.not_mem_nil, or_false] at hcall
      rcases hcall with rfl | rfl <;> exact ⟨'r', _, rfl, by decide⟩
  | size => exact ⟨'c', _, rfl, by decide⟩
  | compare hp => exact hpath hp _
  | compareMirrored hliteral =>
      cases hliteral with
      | text hq =>
          obtain ⟨cs, rfl⟩ := hq.exists_cons
          exact ⟨'"', _, rfl, by decide⟩
      | number hn =>
          obtain ⟨d, ds, rfl, hd⟩ := hn.exists_cons
          refine ⟨d, _, rfl, ?_⟩
          rcases hd with hd | rfl
          · simp [beginsStatement, hd]
          · decide
      | word h =>
          rcases mem_literalWords.mp h with ⟨rfl, -⟩ | ⟨rfl, -⟩ | ⟨rfl, -⟩ <;>
            exact ⟨_, _, rfl, by decide⟩

theorem not_isBlank_of_beginsStatement {c : Char} (h : beginsStatement c = true) :
    Text.isBlank c = false := by
  rw [beginsStatement, Bool.or_eq_true] at h
  rcases h with h | h
  · exact not_isBlank_of_isNameChar (by simp [isNameChar, Char.isAlphanum, h])
  · simp only [List.mem_cons, List.not_mem_nil, or_false, decide_eq_true_eq] at h
    rcases h with rfl | rfl | rfl | rfl | rfl | rfl | rfl | rfl <;> decide

/-- A statement that is understood, as it can stand in a layout. -/
def StatementText.ofStatement {cs : List Char} {c : Condition} (h : IsStatement cs c)
    (hbreak : '\n' ∉ cs) : StatementText where
  chars := cs
  ne_nil := by
    obtain ⟨d, ds, rfl, -⟩ := h.exists_cons
    exact List.cons_ne_nil d ds
  trim_eq := by
    refine Text.trim_eq_self ?_ h.endsSolid.dropEndWhile_eq
    obtain ⟨d, ds, rfl, hd⟩ := h.exists_cons
    simpa using not_isBlank_of_beginsStatement hd
  no_break := hbreak
  closed := h.closes.isClosed

end Guardrail.Rego
