import Guardrail.Proofs.Rego.Lines

/-!
# Reading heads

Each form of a head is read as its name and its variable, whatever end of a head follows it; and
only a line that begins with the word `package` names a package. The body that a head opens is the
text behind a brace of its line.
-/

namespace Guardrail.Rego

/-! ## Packages -/

/-- A line that names a package begins with that word. -/
theorem packageName?_eq_none {line name rest : List Char} (h : name? line = some (name, rest))
    (hne : name ≠ "package".toList) : packageName? line = none := by
  rw [packageName?]
  cases ha : Text.after? "package".toList line with
  | none => rfl
  | some behind =>
      by_cases hb : skipBlanks behind = behind
      · simp [hb]
      · refine absurd ?_ hne
        let word : Name := ⟨"package".toList, by decide⟩
        -- the blank behind the word ends the name
        have hblank : ∀ c ∈ behind.head?, isNameChar c = false := by
          intro c hc
          cases behind with
          | nil => exact absurd rfl hb
          | cons d ds =>
              obtain rfl : d = c := Option.some.inj hc
              rw [← Bool.not_eq_true]
              intro hn
              exact hb (skipBlanks_of_head? (by simp [not_isBlank_of_isNameChar hn]))
        have hword := word.name?_append hblank
        rw [Text.after?_eq_some_iff] at ha
        rw [ha, hword] at h
        exact (congrArg Prod.fst (Option.some.inj h)).symm

theorem packageName?_line {package : List Char} (h : (dottedName package).all isName = true) :
    packageName? ("package".toList ++ ' ' :: package) = some (String.ofList package) := by
  have hblank : ∀ c ∈ package, Text.isBlank c = false := fun c hc => not_isBlank_of_mem_dotted h hc
  have hhead : ∀ c ∈ package.head?, Text.isBlank c = false :=
    fun c hc => hblank c (List.mem_of_mem_head? hc)
  have hafter : Text.after? "package".toList ("package".toList ++ ' ' :: package) =
      some (' ' :: package) := by
    rw [Text.after?_eq_some_iff]
  have hskip : skipBlanks (' ' :: package) ≠ ' ' :: package := by
    rw [skipBlanks_space, skipBlanks_of_head? hhead]
    simp
  have htrim : Text.trim (' ' :: package) = package := by
    have hspace : ∀ c ∈ [' '], Text.isBlank c = true := List.forall_mem_singleton.mpr rfl
    rw [← List.singleton_append, Text.trim_append_of_blank hspace]
    exact Text.trim_eq_self hhead (Text.dropEndWhile_of_forall_not hblank)
  rw [packageName?, hafter]
  simpa [hskip, htrim] using h

/-! ## Ends of heads -/

theorem opening?_skipBlanks (cs : List Char) : opening? (skipBlanks cs) = opening? cs := by
  rw [opening?, skipBlanks_skipBlanks, opening?]

theorem skipIf_cons_of_ne {c : Char} (h : c ≠ 'i') (cs : List Char) :
    skipIf (c :: cs) = c :: cs := by
  unfold skipIf
  split
  · rename_i heq
    exact absurd (List.cons.inj heq).1 h
  · rfl

/-- What is left of the end of a head begins with `if` or with the brace. -/
theorem head?_of_opening? {cs : List Char} {body? : Option (List Char)}
    (h : opening? cs = some body?) : ∀ c ∈ (skipBlanks cs).head?, c = 'i' ∨ c = '{' := by
  intro c hc
  cases hs : skipBlanks cs with
  | nil => simp [hs] at hc
  | cons d ds =>
      obtain rfl : d = c := by simpa [hs] using hc
      by_cases hi : d = 'i'
      · exact .inl hi
      · rw [opening?, hs, skipIf_cons_of_ne hi] at h
        split at h
        · simp_all
        · simp_all
        · simp at h

theorem opening?_ifText (hasIf : Bool) : opening? (ifText hasIf) = some none := by
  cases hasIf <;> rfl

/-- A margin in front of a brace ends a word. -/
theorem not_isWordChar_brace (m : Margin) (rest : List Char) :
    ∀ c ∈ (m.chars ++ '{' :: rest).head?, isWordChar c = false := by
  intro c hc
  cases hm : m.chars with
  | nil =>
      obtain rfl : '{' = c := by simpa [hm] using hc
      rfl
  | cons d ds =>
      obtain rfl : d = c := by simpa [hm] using hc
      rcases m.forall_mem d (by simp [hm]) with rfl | rfl <;> rfl

theorem not_isNameChar_of_not_isWordChar {c : Char} (h : isWordChar c = false) :
    isNameChar c = false :=
  (Bool.or_eq_false_iff.mp h).1

theorem opening?_brace (hasIf : Bool) (m : Margin) (rest : List Char) :
    opening? (ifText hasIf ++ (m.chars ++ '{' :: rest)) = some (some rest) := by
  have hskip : skipBlanks (m.chars ++ '{' :: rest) = '{' :: rest := by
    rw [skipBlanks_append_of_blank fun _ hc => m.isBlank_of_mem hc]
    rfl
  cases hasIf with
  | false =>
      rw [ifText, if_neg Bool.false_ne_true, List.nil_append, opening?, hskip]
      rfl
  | true =>
      have hword : (m.chars ++ '{' :: rest).head?.any isWordChar = false := by
        rw [Option.any_eq_false]
        intro c hc
        simp [not_isWordChar_brace m rest c hc]
      have hif : skipBlanks (ifText true ++ (m.chars ++ '{' :: rest)) =
          'i' :: 'f' :: (m.chars ++ '{' :: rest) := rfl
      rw [opening?, hif, skipIf, hword, if_neg Bool.false_ne_true, hskip]
      rfl

/-! ## Heads -/

section Forms

variable {tail : List Char} {body? : Option (List Char)}

theorem head?_absent (n : Name) (hn : ∀ c ∈ tail.head?, isNameChar c = false)
    (ho : opening? tail = some body?) :
    head? (n.chars ++ tail) = some (⟨String.ofList n.chars, none⟩, body?) := by
  have hfirst := head?_of_opening? ho
  have ho' : opening? (skipBlanks tail) = some body? := by
    rw [opening?_skipBlanks, ho]
  have hcontains : Text.after? "contains".toList (skipBlanks tail) = none := by
    cases hs : skipBlanks tail with
    | nil => rfl
    | cons c cs => rcases hfirst c (by simp [hs]) with rfl | rfl <;> rfl
  rw [head?, n.name?_append hn]
  simp only [bind, Option.bind_some, hcontains, ite_self]
  split
  · rename_i inside heq
    have := hfirst '[' (by simp [heq])
    simp at this
  · rw [ho', Option.map_some]

theorem head?_bracketed (n v : Name) (ho : opening? tail = some body?) :
    head? (n.chars ++ '[' :: (v.chars ++ ']' :: tail)) =
      some (⟨String.ofList n.chars, some v.chars⟩, body?) := by
  have hinside : bracketedName? (v.chars ++ ']' :: tail) = some (v.chars, tail) := by
    have hv : name? (v.chars ++ ']' :: tail) = some (v.chars, ']' :: tail) :=
      v.name?_append (by simp; decide)
    have hclose : skipBlanks (']' :: tail) = ']' :: tail := rfl
    simp [bracketedName?, v.skipBlanks_append, hv, hclose]
  have hopen : skipBlanks ('[' :: (v.chars ++ ']' :: tail)) = '[' :: (v.chars ++ ']' :: tail) := rfl
  rw [head?, n.name?_append (by simp; decide)]
  simp only [bind, Option.bind_some, hopen, hinside, ho, Option.map_some]

theorem head?_contained (n v : Name) (hn : ∀ c ∈ tail.head?, isNameChar c = false)
    (ho : opening? tail = some body?) :
    head? (n.chars ++ ' ' :: ("contains".toList ++ ' ' :: (v.chars ++ tail))) =
      some (⟨String.ofList n.chars, some v.chars⟩, body?) := by
  have hskip : skipBlanks (' ' :: ("contains".toList ++ ' ' :: (v.chars ++ tail))) =
      "contains".toList ++ ' ' :: (v.chars ++ tail) := by
    rw [skipBlanks_space]
    rfl
  have hafter : Text.after? "contains".toList ("contains".toList ++ ' ' :: (v.chars ++ tail)) =
      some (' ' :: (v.chars ++ tail)) := by
    rw [Text.after?_eq_some_iff]
  have hmoved (cs : List Char) : cs ≠ ' ' :: cs := by simp
  have hvariable : skipBlanks (' ' :: (v.chars ++ tail)) = v.chars ++ tail := by
    rw [skipBlanks_space, v.skipBlanks_append]
  rw [head?, n.name?_append (by simp; decide)]
  simp only [bind, Option.bind_some, hskip, if_neg (hmoved _), hafter, hvariable,
    v.name?_append hn, ho, Option.map_some]
  rfl

/-- A head is read in every form. -/
theorem head?_binding (n : Name) (b : HeadBinding) (hn : ∀ c ∈ tail.head?, isNameChar c = false)
    (ho : opening? tail = some body?) :
    head? (n.chars ++ (b.text ++ tail)) = some (⟨String.ofList n.chars, b.name?⟩, body?) := by
  cases b with
  | absent => exact head?_absent n hn ho
  | bracketed v =>
      have h := head?_bracketed n v ho
      simpa [HeadBinding.text, HeadBinding.name?] using h
  | contained v =>
      have h := head?_contained n v hn ho
      rw [HeadBinding.text, HeadBinding.name?, List.cons_append, List.append_assoc,
        List.cons_append]
      exact h

/-- The form of a head does not make its line one that names a package. -/
theorem packageName?_binding (n : Name) (hne : n.chars ≠ "package".toList) (b : HeadBinding)
    (hn : ∀ c ∈ tail.head?, isNameChar c = false) :
    packageName? (n.chars ++ (b.text ++ tail)) = none := by
  have hend : ∀ c ∈ (b.text ++ tail).head?, isNameChar c = false := by
    cases b with
    | absent => exact hn
    | bracketed v => simp [HeadBinding.text]; decide
    | contained v => simp [HeadBinding.text]; decide
  exact packageName?_eq_none (n.name?_append hend) hne

end Forms

namespace RuleText

/-- What the head says. -/
def readHead (r : RuleText) : Head :=
  ⟨String.ofList r.head.chars, r.binding.name?⟩

variable (r : RuleText) {tail : List Char} {body? : Option (List Char)}

theorem not_isNameChar_ifText (hn : ∀ c ∈ tail.head?, isNameChar c = false) :
    ∀ c ∈ (ifText r.hasIf ++ tail).head?, isNameChar c = false := by
  cases r.hasIf with
  | false => exact hn
  | true => simp [ifText]; decide

theorem headText_append_ne_nil (tail : List Char) : r.headText ++ tail ≠ [] := by
  simp [headText, r.head.ne_nil]

theorem not_isBlank_headText (tail : List Char) :
    ∀ c ∈ (r.headText ++ tail).head?, Text.isBlank c = false := by
  rw [headText, List.append_assoc]
  exact r.head.not_isBlank_head? _

theorem head?_headText (hn : ∀ c ∈ tail.head?, isNameChar c = false)
    (ho : opening? (ifText r.hasIf ++ tail) = some body?) :
    head? (r.headText ++ tail) = some (r.readHead, body?) := by
  have h := head?_binding r.head r.binding (r.not_isNameChar_ifText hn) ho
  rwa [headText, List.append_assoc, List.append_assoc]

theorem packageName?_headText (hn : ∀ c ∈ tail.head?, isNameChar c = false) :
    packageName? (r.headText ++ tail) = none := by
  have h := packageName?_binding r.head r.head_ne r.binding (r.not_isNameChar_ifText hn)
  rwa [headText, List.append_assoc, List.append_assoc]

end RuleText

/-! ## The brace of a body -/

theorem skipBlanks_suffix (cs : List Char) : skipBlanks cs <:+ cs :=
  List.dropWhile_suffix _

theorem skipIf_suffix (cs : List Char) : skipIf cs <:+ cs := by
  unfold skipIf
  split
  · rename_i rest
    have hword : rest <:+ 'i' :: 'f' :: rest := ⟨['i', 'f'], rfl⟩
    split
    · exact List.suffix_rfl
    · exact (skipBlanks_suffix rest).trans hword
  · exact List.suffix_rfl

theorem suffix_of_name? {cs name rest : List Char} (h : name? cs = some (name, rest)) :
    rest <:+ cs := by
  cases cs with
  | nil => simp [name?] at h
  | cons c cs =>
      rw [name?] at h
      split at h
      · obtain ⟨-, rfl⟩ := Prod.mk.inj (Option.some.inj h)
        exact (List.dropWhile_suffix _).trans (List.suffix_cons c cs)
      · exact absurd h (by simp)

/-- The end of a head that has a brace ends in the brace and what follows it. -/
theorem brace_suffix_of_opening? {cs rest : List Char} (h : opening? cs = some (some rest)) :
    '{' :: rest <:+ cs := by
  have hcs : skipIf (skipBlanks cs) <:+ cs := (skipIf_suffix _).trans (skipBlanks_suffix cs)
  unfold opening? at h
  split at h
  · exact absurd h (by simp)
  · rename_i heq
    obtain rfl := Option.some.inj (Option.some.inj h)
    rwa [heq] at hcs
  · exact absurd h (by simp)

theorem suffix_of_bracketedName? {cs name rest : List Char}
    (h : bracketedName? cs = some (name, rest)) : rest <:+ cs := by
  simp only [bracketedName?, bind, Option.bind_eq_some_iff] at h
  obtain ⟨⟨name', behind⟩, hname, h⟩ := h
  have hbehind : skipBlanks behind <:+ cs :=
    ((skipBlanks_suffix behind).trans (suffix_of_name? hname)).trans (skipBlanks_suffix cs)
  dsimp only at h
  split at h
  · rename_i heq
    obtain ⟨-, rfl⟩ := Prod.mk.inj (Option.some.inj h)
    rw [heq] at hbehind
    exact (List.suffix_cons _ _).trans hbehind
  · exact absurd h (by simp)

theorem brace_suffix_of_bracketedObject? {read cs object rest : List Char}
    (h : bracketedObject? read cs = some (object, some rest)) : '{' :: rest <:+ cs := by
  induction cs generalizing read with
  | nil => simp [bracketedObject?] at h
  | cons c cs ih =>
      simp only [bracketedObject?, Option.or_eq_some_iff] at h
      rcases h with h | ⟨-, h⟩
      · split at h
        · have hcs := (skipBlanks_suffix cs).trans (List.suffix_cons c cs)
          split at h
          · rename_i tail heq
            obtain ⟨body?, hopening, hpair⟩ := Option.map_eq_some_iff.mp h
            obtain ⟨-, rfl⟩ := Prod.mk.inj hpair
            rw [heq] at hcs
            exact ((brace_suffix_of_opening? hopening).trans (List.suffix_cons _ _)).trans hcs
          · exact absurd h (by simp)
        · exact absurd h (by simp)
      · exact (ih h).trans (List.suffix_cons c cs)

/-- The body that a head opens is the text behind a brace. -/
theorem brace_suffix_of_head? {line rest : List Char} {h : Head}
    (hh : head? line = some (h, some rest)) : '{' :: rest <:+ line := by
  simp only [head?, bind, Option.bind_eq_some_iff] at hh
  obtain ⟨⟨name, behind⟩, hname, hh⟩ := hh
  have hbehind : behind <:+ line := suffix_of_name? hname
  have hblanks : skipBlanks behind <:+ line := (skipBlanks_suffix behind).trans hbehind
  dsimp only at hh
  split at hh
  case h_1 inside heq =>
    rw [heq] at hblanks
    have hinside : inside <:+ line := (List.suffix_cons _ _).trans hblanks
    split at hh
    · rename_i hbracketed
      obtain ⟨body?, hopening, hpair⟩ := Option.map_eq_some_iff.mp hh
      obtain ⟨-, rfl⟩ := Prod.mk.inj hpair
      exact ((brace_suffix_of_opening? hopening).trans (suffix_of_bracketedName? hbracketed)).trans
        hinside
    · split at hh
      · rename_i object heq'
        have hobject : '{' :: object <:+ inside := heq' ▸ skipBlanks_suffix inside
        simp only [Option.bind_eq_some_iff, Option.some.injEq, Prod.mk.injEq] at hh
        obtain ⟨⟨_, _⟩, hbracketed, -, rfl⟩ := hh
        exact (((brace_suffix_of_bracketedObject? hbracketed).trans (List.suffix_cons _ _)).trans
          hobject).trans hinside
      · exact absurd hh (by simp)
  case h_2 =>
    split at hh
    · rename_i more heq
      split at heq
      · exact absurd heq (by simp)
      · have hmore : more <:+ skipBlanks behind := ⟨_, (Text.after?_eq_some_iff.mp heq).symm⟩
        split at hh
        · exact absurd hh (by simp)
        · simp only [Option.bind_eq_some_iff] at hh
          obtain ⟨⟨_, tail⟩, hname', hh⟩ := hh
          obtain ⟨body?, hopening, hpair⟩ := Option.map_eq_some_iff.mp hh
          obtain ⟨-, rfl⟩ := Prod.mk.inj hpair
          have htail : tail <:+ more := (suffix_of_name? hname').trans (skipBlanks_suffix more)
          exact (((brace_suffix_of_opening? hopening).trans htail).trans hmore).trans hblanks
    · obtain ⟨body?, hopening, hpair⟩ := Option.map_eq_some_iff.mp hh
      obtain ⟨-, rfl⟩ := Prod.mk.inj hpair
      exact (brace_suffix_of_opening? hopening).trans hblanks

end Guardrail.Rego
