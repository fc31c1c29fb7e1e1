import Guardrail.Proofs.Text.Search
import Guardrail.Rego.Head

/-!
# Names in policy texts

A name is read up to its end from any text that goes on with another character, and it has no
blanks. Neither has a name with dots in it.
-/

namespace Guardrail.Rego

/-! ## Characters -/

theorem toNat_bounds_of_isNameChar {c : Char} (h : isNameChar c = true) :
    0x30 ≤ c.toNat ∧ c.toNat ≤ 0x7a := by
  delta isNameChar Char.isAlphanum Char.isAlpha Char.isUpper Char.isLower Char.isDigit at h
  simp only [Bool.or_eq_true, Bool.and_eq_true, decide_eq_true_eq, ge_iff_le,
    UInt32.le_iff_toNat_le, Char.ext_iff, ← UInt32.toNat_inj, Char.reduceVal,
    UInt32.reduceToNat] at h
  rw [Char.toNat]
  omega

theorem not_isBlank_of_isNameChar {c : Char} (h : isNameChar c = true) :
    Text.isBlank c = false := by
  rw [← Bool.not_eq_true]
  intro hb
  have hn := toNat_bounds_of_isNameChar h
  have hb := Text.toNat_bounds_of_isBlank hb
  omega

theorem isNameChar_of_isNameStart {c : Char} (h : isNameStart c = true) : isNameChar c = true := by
  simp only [isNameStart, isNameChar, Char.isAlphanum, Bool.or_eq_true] at h ⊢
  rcases h with h | h
  · exact .inl (.inl h)
  · exact .inr h

/-! ## Names -/

/-- The characters of a name. -/
theorem exists_cons_of_isName {cs : List Char} (h : isName cs = true) :
    ∃ c rest, cs = c :: rest ∧ isNameStart c = true ∧ ∀ d ∈ rest, isNameChar d = true := by
  cases cs with
  | nil => simp [isName, name?] at h
  | cons c rest =>
      refine ⟨c, rest, rfl, ?_⟩
      by_cases hc : isNameStart c = true
      · rw [isName, name?, if_pos hc] at h
        cases hrest : rest.dropWhile isNameChar with
        | nil =>
            have hall := List.any_dropWhile (p := isNameChar) (l := rest)
            rw [hrest, List.any_nil, eq_comm, Bool.not_eq_false', List.all_eq_true] at hall
            exact ⟨hc, hall⟩
        | cons d ds => simp [hrest] at h
      · simp [isName, name?, hc] at h

/-- A name as it stands in a text. -/
structure Name where
  chars : List Char
  isName_chars : isName chars = true

theorem Name.isNameChar_of_mem (n : Name) {c : Char} (h : c ∈ n.chars) : isNameChar c = true := by
  obtain ⟨d, rest, hn, hd, hrest⟩ := exists_cons_of_isName n.isName_chars
  rw [hn] at h
  rcases List.mem_cons.mp h with rfl | h
  · exact isNameChar_of_isNameStart hd
  · exact hrest c h

theorem Name.ne_nil (n : Name) : n.chars ≠ [] := by
  obtain ⟨d, rest, hn, -⟩ := exists_cons_of_isName n.isName_chars
  simp [hn]

/-- A name is read whole if what follows it cannot belong to it. -/
theorem Name.name?_append (n : Name) {rest : List Char}
    (h : ∀ c ∈ rest.head?, isNameChar c = false) :
    name? (n.chars ++ rest) = some (n.chars, rest) := by
  obtain ⟨c, cs, hn, hc, hcs⟩ := exists_cons_of_isName n.isName_chars
  rw [hn, List.cons_append, name?, if_pos hc, Text.takeWhile_append_of_head? hcs h,
    Text.dropWhile_append_of_head? hcs h]

/-! ## Blanks in front of a text -/

theorem skipBlanks_of_head? {cs : List Char} (h : ∀ c ∈ cs.head?, Text.isBlank c = false) :
    skipBlanks cs = cs := by
  cases cs with
  | nil => rfl
  | cons c cs => exact List.dropWhile_cons_of_neg (by simp [h c (by simp)])

theorem skipBlanks_append_of_blank {margin : List Char}
    (h : ∀ c ∈ margin, Text.isBlank c = true) (cs : List Char) :
    skipBlanks (margin ++ cs) = skipBlanks cs :=
  List.dropWhile_append_of_pos h

theorem skipBlanks_space (cs : List Char) : skipBlanks (' ' :: cs) = skipBlanks cs := rfl

theorem skipBlanks_skipBlanks (cs : List Char) : skipBlanks (skipBlanks cs) = skipBlanks cs :=
  skipBlanks_of_head? (Text.forall_head?_dropWhile Text.isBlank cs)

/-- The first character of a text that begins with a name. -/
theorem Name.not_isBlank_head? (n : Name) (rest : List Char) :
    ∀ c ∈ (n.chars ++ rest).head?, Text.isBlank c = false := by
  intro c hc
  obtain ⟨d, ds, hn, -⟩ := exists_cons_of_isName n.isName_chars
  have hmem : d ∈ n.chars := by simp [hn]
  obtain rfl : d = c := by simpa [hn] using hc
  exact not_isBlank_of_isNameChar (n.isNameChar_of_mem hmem)

theorem Name.skipBlanks_append (n : Name) (rest : List Char) :
    skipBlanks (n.chars ++ rest) = n.chars ++ rest :=
  skipBlanks_of_head? (n.not_isBlank_head? rest)

/-! ## Dotted names -/

/-- The characters of a dotted name. -/
theorem isNameChar_or_eq_dot {cs : List Char} (h : (dottedName cs).all isName = true) {c : Char}
    (hc : c ∈ cs) : isNameChar c = true ∨ c = '.' := by
  by_cases hdot : c = '.'
  · exact .inr hdot
  · obtain ⟨piece, hp, hcp⟩ :=
      Text.exists_mem_splitWhere (· = '.') hc (decide_eq_false hdot)
    have hname : isName piece = true := List.all_eq_true.mp h piece hp
    exact .inl (Name.isNameChar_of_mem ⟨piece, hname⟩ hcp)

theorem not_isBlank_of_mem_dotted {cs : List Char} (h : (dottedName cs).all isName = true)
    {c : Char} (hc : c ∈ cs) : Text.isBlank c = false := by
  rcases isNameChar_or_eq_dot h hc with hn | rfl
  · exact not_isBlank_of_isNameChar hn
  · decide

theorem ne_nil_of_dotted {cs : List Char} (h : (dottedName cs).all isName = true) : cs ≠ [] := by
  rintro rfl
  simp [dottedName, Text.splitWhere, isName, name?] at h

end Guardrail.Rego
