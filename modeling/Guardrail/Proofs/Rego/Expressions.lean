import Guardrail.Proofs.Rego.Readers

/-!
# Paths, literals and patterns

The readers of paths, literals and patterns take exactly the texts that the grammar calls so.
-/

namespace Guardrail.Rego

/-! ## Characters -/

theorem not_isDelimiter_of_isDigit {c : Char} (h : c.isDigit = true) : isDelimiter c = false := by
  have hn : isNameChar c = true := by simp [isNameChar, Char.isAlphanum, h]
  have hne : ∀ d : Char, d.isDigit = false → c ≠ d := by
    rintro d hd rfl
    simp [h] at hd
  simp [isDelimiter, not_isBlank_of_isNameChar hn, hne]

/-- A character that ends an expression is in none. -/
theorem of_isDelimiter {c : Char} (h : isDelimiter c = true) :
    isNameChar c = false ∧ c ∉ ['-', '+', '.', '['] := by
  simp only [isDelimiter, Bool.or_eq_true, decide_eq_true_eq] at h
  rcases h with (((((h | rfl) | rfl) | rfl) | rfl) | rfl) | rfl
  · constructor
    · refine Bool.eq_false_iff.mpr fun hn => ?_
      simp [not_isBlank_of_isNameChar hn] at h
    · intro hmem
      simp only [List.mem_cons, List.not_mem_nil, or_false] at hmem
      rcases hmem with rfl | rfl | rfl | rfl
      all_goals exact absurd h (by decide)
  all_goals decide

/-! ## Strings -/

theorem string?_eq_some_iff {cs rest : List Char} {s : String} :
    string? cs = some (s, rest) ↔ ∃ text, IsQuoted text s ∧ cs = text ++ rest := by
  constructor
  · intro h
    unfold string? at h
    split at h
    · simp only [bind, Option.bind_eq_some_iff] at h
      obtain ⟨⟨s?, behind⟩, hread, h⟩ := h
      obtain ⟨t, rfl, he⟩ := Option.map_eq_some_iff.mp h
      obtain ⟨rfl, rfl⟩ := Prod.mk.inj he
      obtain ⟨body, hbody, rfl⟩ := Json.Token.quoted?_eq_some_iff.mp hread
      exact ⟨'"' :: (body ++ ['"']), .intro hbody, by simp⟩
    · contradiction
  · rintro ⟨_, ⟨hbody⟩, rfl⟩
    rename_i body t
    have hread : Json.Token.quoted? (some []) (body ++ '"' :: rest) = some (some t, rest) :=
      Json.Token.quoted?_eq_some_iff.mpr ⟨body, hbody, rfl⟩
    simp [string?, hread]

theorem string?_append {text : List Char} {s : String} (h : IsQuoted text s) (rest : List Char) :
    string? (text ++ rest) = some (s, rest) :=
  string?_eq_some_iff.mpr ⟨text, h, rfl⟩

theorem IsQuoted.exists_cons {text : List Char} {s : String} (h : IsQuoted text s) :
    ∃ cs, text = '"' :: cs := by
  obtain ⟨_⟩ := h
  exact ⟨_, rfl⟩

/-! ## Paths -/

theorem exists_of_segment? {cs rest : List Char} {s : String} (h : segment? cs = some (s, rest)) :
    ∃ text, IsSegment text s ∧ cs = text ++ rest := by
  unfold segment? at h
  split at h
  · rename_i c cs
    split at h
    · rename_i hc
      obtain ⟨rfl, rfl⟩ := Prod.mk.inj (Option.some.inj h)
      refine ⟨_, .name hc (Text.forall_mem_takeWhile _ cs), ?_⟩
      simp [List.takeWhile_append_dropWhile]
    · contradiction
  · rename_i cs
    split at h
    · rename_i hread
      obtain ⟨rfl, rfl⟩ := Prod.mk.inj (Option.some.inj h)
      obtain ⟨text, ht, hcs⟩ := string?_eq_some_iff.mp hread
      exact ⟨_, .text ht, by simp [hcs]⟩
    · contradiction
  · rename_i cs _
    split at h
    · rename_i c digits rest' htake hdrop
      obtain ⟨rfl, rfl⟩ := Prod.mk.inj (Option.some.inj h)
      have hdigits := Text.forall_mem_takeWhile isIndexChar cs
      rw [htake] at hdigits
      refine ⟨_, .index (List.cons_ne_nil c digits) hdigits, ?_⟩
      rw [← List.takeWhile_append_dropWhile (p := isIndexChar) (l := cs), htake, hdrop]
      simp
    · contradiction
  · contradiction

/-- Whether the segments of a path may end in front of a text. -/
def EndsPath (cs : List Char) : Prop :=
  ∀ c ∈ cs.head?, isNameChar c = false ∧ c ≠ '-'

theorem segment?_append {text rest : List Char} {s : String} (h : IsSegment text s)
    (hrest : EndsPath rest) : segment? (text ++ rest) = some (s, rest) := by
  cases h with
  | @name c cs hc hcs =>
      have hend : ∀ d ∈ rest.head?, (isNameChar d || d = '-') = false := by
        intro d hd
        simp [hrest d hd]
      simp [segment?, hc, Text.takeWhile_append_of_head? hcs hend,
        Text.dropWhile_append_of_head? hcs hend]
  | text hq =>
      obtain ⟨cs, rfl⟩ := hq.exists_cons
      have hread := string?_append hq (']' :: rest)
      rw [List.cons_append] at hread
      simp [segment?, hread]
  | @index digits hne hdigits =>
      have hend : ∀ d ∈ (']' :: rest).head?, isIndexChar d = false := by
        intro d hd
        obtain rfl := Option.some.inj hd
        decide
      obtain ⟨d, ds, rfl⟩ := List.exists_cons_of_ne_nil hne
      have hd : d ≠ '"' := by
        rintro rfl
        exact absurd (hdigits '"' List.mem_cons_self) (by decide)
      have htake := Text.takeWhile_append_of_head? hdigits hend
      have hdrop := Text.dropWhile_append_of_head? hdigits hend
      rw [List.cons_append] at htake hdrop
      simp [segment?, hd, htake, hdrop]

theorem IsSegment.exists_cons {text : List Char} {s : String} (h : IsSegment text s) :
    ∃ c cs, text = c :: cs ∧ (c = '.' ∨ c = '[') := by
  cases h with
  | name hc hcs => exact ⟨_, _, rfl, .inl rfl⟩
  | text hq => exact ⟨_, _, rfl, .inr rfl⟩
  | index hne h => exact ⟨_, _, rfl, .inr rfl⟩

theorem exists_of_segments {cs rest : List Char} {path : List String}
    (h : segments cs = (path, rest)) : ∃ text, IsSegments text path ∧ cs = text ++ rest := by
  fun_induction segments cs generalizing path rest with
  | case1 cs hnone =>
      obtain ⟨rfl, rfl⟩ := Prod.mk.inj h
      exact ⟨[], .nil, rfl⟩
  | case2 cs s behind hs hlt more rest' hmore ih =>
      obtain ⟨rfl, rfl⟩ := Prod.mk.inj h
      obtain ⟨text, ht, rfl⟩ := exists_of_segment? hs
      obtain ⟨texts, hts, rfl⟩ := ih hmore
      exact ⟨text ++ texts, .cons ht hts, by simp⟩
  | case3 cs s behind hs hlt =>
      -- the path would end here, but every segment takes a character
      obtain ⟨rfl, rfl⟩ := Prod.mk.inj h
      obtain ⟨text, ht, rfl⟩ := exists_of_segment? hs
      exact ⟨text ++ [], .cons ht .nil, by simp⟩

theorem EndsExpression.endsPath {rest : List Char} (h : EndsExpression rest) : EndsPath rest := by
  intro c hc
  obtain ⟨hn, hmem⟩ := of_isDelimiter (h c hc)
  exact ⟨hn, fun hd => hmem (by simp [hd])⟩

theorem endsPath_append {text rest : List Char} {path : List String} (h : IsSegments text path)
    (hrest : EndsExpression rest) : EndsPath (text ++ rest) := by
  cases h with
  | nil => exact hrest.endsPath
  | cons hs _ =>
      obtain ⟨c, cs, rfl, hc⟩ := hs.exists_cons
      intro d hd
      obtain rfl := Option.some.inj hd
      rcases hc with rfl | rfl <;> decide

theorem segment?_eq_none {rest : List Char} (h : EndsExpression rest) : segment? rest = none := by
  cases rest with
  | nil => rfl
  | cons c cs =>
      obtain ⟨-, hmem⟩ := of_isDelimiter (h c rfl)
      unfold segment?
      split
      case h_4 => rfl
      all_goals
        rename_i heq
        obtain ⟨rfl, -⟩ := List.cons.inj heq
        simp at hmem

theorem segments_append {text rest : List Char} {path : List String} (h : IsSegments text path)
    (hrest : EndsExpression rest) : segments (text ++ rest) = (path, rest) := by
  induction h with
  | nil => rw [List.nil_append, segments, segment?_eq_none hrest]
  | @cons cs ds s path hs hss ih =>
      have hread := segment?_append hs (endsPath_append hss hrest)
      have hlt : (ds ++ rest).length < (cs ++ (ds ++ rest)).length := by
        obtain ⟨c, cs, rfl, -⟩ := hs.exists_cons
        simp only [List.length_append, List.length_cons]
        omega
      rw [List.append_assoc, segments, hread]
      simp only [hlt, ↓reduceIte, ih]

theorem fieldName_of_ne {s : String} {path : List String} (h : s = "changeRequest" → path = []) :
    fieldName (s :: path) = ".".intercalate (s :: path) := by
  unfold fieldName
  split
  · rename_i heq
    obtain ⟨rfl, rfl⟩ := List.cons.inj heq
    exact absurd (h rfl) (List.cons_ne_nil _ _)
  · rfl

theorem isPath_append {cs : List Char} {path : List String} (h : IsSegments cs path)
    (hne : path ≠ []) : IsPath ("input".toList ++ cs) (fieldName path) := by
  match path with
  | [] => contradiction
  | [s] =>
      rw [fieldName_of_ne fun _ => rfl]
      exact .plain h fun _ => rfl
  | s :: t :: path =>
      by_cases hs : s = "changeRequest"
      · subst hs
        exact .request h
      · rw [fieldName_of_ne fun heq => absurd heq hs]
        exact .plain h fun heq => absurd heq hs

theorem exists_of_isPath {text : List Char} {field : String} (h : IsPath text field) :
    ∃ cs path, IsSegments cs path ∧ path ≠ [] ∧ text = "input".toList ++ cs ∧
      field = fieldName path := by
  cases h with
  | plain hs hne => exact ⟨_, _, hs, List.cons_ne_nil _ _, rfl, (fieldName_of_ne hne).symm⟩
  | request hs => exact ⟨_, _, hs, List.cons_ne_nil _ _, rfl, rfl⟩

theorem reads_path : Reads path? IsPath where
  sound {cs rest field} h := by
    simp only [path?, bind, Option.bind_eq_some_iff, Text.after?_eq_some_iff] at h
    obtain ⟨behind, rfl, h⟩ := h
    split at h
    · contradiction
    · rename_i path rest' hne hread
      obtain ⟨rfl, rfl⟩ := Prod.mk.inj (Option.some.inj h)
      obtain ⟨text, ht, rfl⟩ := exists_of_segments hread
      refine ⟨"input".toList ++ text, isPath_append ht ?_, ?_⟩
      · rintro rfl
        exact hne rfl
      · simp
  complete {text rest field} h hrest := by
    obtain ⟨cs, path, hs, hne, rfl, rfl⟩ := exists_of_isPath h
    obtain ⟨s, path, rfl⟩ := List.exists_cons_of_ne_nil hne
    have hafter : Text.after? ['i', 'n', 'p', 'u', 't'] ("input".toList ++ cs ++ rest) =
        some (cs ++ rest) := Text.after?_eq_some_iff.mpr (by simp)
    simp only [path?, hafter, bind, Option.bind_some, segments_append hs hrest]
  starts {text field} h := by
    obtain ⟨cs, path, -, -, rfl, -⟩ := exists_of_isPath h
    exact ⟨'i', _, rfl, by decide⟩

/-! ## Literals -/

theorem word?_of_mem_literalWords {cs : List Char} {v : Json} (h : (cs, v) ∈ literalWords) :
    ∃ s : Scalar, s.toJson = v ∧ Json.Token.word? cs = some (some s) ∧ cs ≠ [] ∧
      ∀ c ∈ cs, Json.Token.isWordChar c = true := by
  rcases mem_literalWords.mp h with ⟨rfl, rfl⟩ | ⟨rfl, rfl⟩ | ⟨rfl, rfl⟩
  · exact ⟨.bool true, rfl, rfl, by simp, List.all_eq_true.mp rfl⟩
  · exact ⟨.bool false, rfl, rfl, by simp, List.all_eq_true.mp rfl⟩
  · exact ⟨.null, rfl, rfl, by simp, List.all_eq_true.mp rfl⟩

theorem word?_of_isNumeral {cs : List Char} {n : Number.Numeral} {x : Number}
    (h : Number.IsNumeral cs n) (hx : n.toNumber? = some x) :
    Json.Token.word? cs = some (some (.number x)) := by
  have hread := Number.ofChars?_eq_some_iff.mpr h
  unfold Json.Token.word?
  split
  · subst_vars
    contradiction
  · split
    · subst_vars
      contradiction
    · split
      · subst_vars
        contradiction
      · simp [hread, hx]

theorem isLiteral_of_word? {cs : List Char} {s : Scalar} (h : Json.Token.word? cs = some (some s)) :
    IsLiteral cs s.toJson := by
  unfold Json.Token.word? at h
  split at h
  · rename_i hcs
    obtain rfl := Option.some.inj (Option.some.inj h)
    exact .word (by simp [hcs, mem_literalWords, Scalar.toJson])
  · split at h
    · rename_i hcs
      obtain rfl := Option.some.inj (Option.some.inj h)
      exact .word (by simp [hcs, mem_literalWords, Scalar.toJson])
    · split at h
      · rename_i hcs
        obtain rfl := Option.some.inj (Option.some.inj h)
        exact .word (by simp [hcs, mem_literalWords, Scalar.toJson])
      · obtain ⟨n, hn, hs⟩ := Option.map_eq_some_iff.mp h
        obtain ⟨x, hx, rfl⟩ := Option.map_eq_some_iff.mp hs
        exact .number (Number.ofChars?_eq_some_iff.mp hn) hx

theorem not_isWordChar_of_isDelimiter {c : Char} (h : isDelimiter c = true) :
    Json.Token.isWordChar c = false := by
  obtain ⟨hn, hmem⟩ := of_isDelimiter h
  simp only [isNameChar, Bool.or_eq_false_iff] at hn
  simp only [List.mem_cons, List.not_mem_nil, or_false, not_or] at hmem
  simp [Json.Token.isWordChar, hn.1, hmem]

/-- A literal without quotes is read up to the first character that cannot stand in it. -/
theorem literal?_append {text rest : List Char} {s : Scalar} (hne : text ≠ [])
    (hchars : ∀ c ∈ text, Json.Token.isWordChar c = true) (hrest : EndsExpression rest)
    (hword : Json.Token.word? text = some (some s)) :
    literal? (text ++ rest) = some (s.toJson, rest) := by
  have hend : ∀ c ∈ rest.head?, Json.Token.isWordChar c = false := fun c hc =>
    not_isWordChar_of_isDelimiter (hrest c hc)
  have hstring : string? (text ++ rest) = none := by
    obtain ⟨d, ds, rfl⟩ := List.exists_cons_of_ne_nil hne
    unfold string?
    split
    · rename_i heq
      obtain ⟨rfl, -⟩ := List.cons.inj heq
      exact absurd (hchars '"' List.mem_cons_self) (by decide)
    · rfl
  simp [literal?, hstring, Text.takeWhile_append_of_head? hchars hend,
    Text.dropWhile_append_of_head? hchars hend, hword]

theorem reads_literal : Reads literal? IsLiteral where
  sound {cs rest v} h := by
    unfold literal? at h
    split at h
    · rename_i s rest' hread
      obtain ⟨rfl, rfl⟩ := Prod.mk.inj (Option.some.inj h)
      obtain ⟨text, ht, rfl⟩ := string?_eq_some_iff.mp hread
      exact ⟨text, .text ht, rfl⟩
    · obtain ⟨s, hs, he⟩ := Option.map_eq_some_iff.mp h
      obtain ⟨rfl, rfl⟩ := Prod.mk.inj he
      exact ⟨cs.takeWhile Json.Token.isWordChar, isLiteral_of_word? (Option.join_eq_some_iff.mp hs),
        List.takeWhile_append_dropWhile.symm⟩
  complete {text rest v} h hrest := by
    cases h with
    | text hq => simp [literal?, string?_append hq]
    | number hn hx =>
        have hne : text ≠ [] := by
          obtain ⟨c, cs, rfl, -⟩ := hn.exists_cons
          exact List.cons_ne_nil c cs
        exact literal?_append hne (fun _ => hn.isWordChar_of_mem) hrest (word?_of_isNumeral hn hx)
    | word h =>
        obtain ⟨s, rfl, hword, hne, hchars⟩ := word?_of_mem_literalWords h
        exact literal?_append hne hchars hrest hword
  starts {text v} h := by
    cases h with
    | text hq =>
        obtain ⟨cs, rfl⟩ := hq.exists_cons
        exact ⟨'"', cs, rfl, by decide⟩
    | number hn hx =>
        obtain ⟨c, cs, rfl, hc⟩ := hn.exists_cons
        refine ⟨c, cs, rfl, ?_⟩
        rcases hc with hc | rfl
        · exact not_isDelimiter_of_isDigit hc
        · decide
    | word h =>
        rcases mem_literalWords.mp h with ⟨rfl, -⟩ | ⟨rfl, -⟩ | ⟨rfl, -⟩
        all_goals exact ⟨_, _, rfl, by decide⟩

/-! ## Patterns -/

theorem reads_pattern : Reads pattern? IsPattern where
  sound {cs rest s} h := by
    unfold pattern? at h
    split at h
    · rename_i cs
      split at h
      · rename_i c behind hdrop
        obtain ⟨rfl, rfl⟩ := Prod.mk.inj (Option.some.inj h)
        have hmem : '\x60' ∉ cs.takeWhile (· ≠ '\x60') := by
          intro hmem
          have hne := Text.forall_mem_takeWhile (· ≠ '\x60') cs _ hmem
          simp at hne
        refine ⟨_, .raw hmem, ?_⟩
        rw [List.cons_append, List.append_assoc, List.singleton_append,
          ← Text.takeWhile_append_of_dropWhile hdrop]
      · contradiction
    · obtain ⟨text, ht, rfl⟩ := string?_eq_some_iff.mp h
      exact ⟨text, .quoted ht, rfl⟩
  complete {text rest s} h _ := by
    cases h with
    | quoted hq =>
        obtain ⟨cs, rfl⟩ := hq.exists_cons
        exact string?_append hq rest
    | @raw cs h =>
        have hne : ∀ c ∈ cs, decide (c ≠ '\x60') = true := by
          intro c hc
          have : c ≠ '\x60' := fun heq => h (heq ▸ hc)
          simpa using this
        have hend : ∀ c ∈ ('\x60' :: rest).head?, decide (c ≠ '\x60') = false := by simp
        have htake := Text.takeWhile_append_of_head? hne hend
        have hdrop := Text.dropWhile_append_of_head? hne hend
        simp only [List.cons_append, List.append_assoc, List.nil_append, pattern?, htake, hdrop]
  starts {text s} h := by
    cases h with
    | quoted hq =>
        obtain ⟨cs, rfl⟩ := hq.exists_cons
        exact ⟨'"', cs, rfl, by decide⟩
    | raw h => exact ⟨'\x60', _, rfl, by decide⟩

end Guardrail.Rego
