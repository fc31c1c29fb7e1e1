import Guardrail.Proofs.Rego.Grammar
import Guardrail.Proofs.Rego.Names

/-!
# Readers of expressions

A reader takes the texts of a language from in front of blanks, signs and the punctuation of calls.
What two readers take from a text that goes on in this way is put together here: the arguments of a
call, and a comparison.
-/

namespace Guardrail.Rego

/-! ## Blanks -/

theorem exists_blanks (cs : List Char) : ∃ blanks, IsBlanks blanks ∧ cs = blanks ++ skipBlanks cs :=
  ⟨cs.takeWhile Text.isBlank, Text.forall_mem_takeWhile _ _,
    List.takeWhile_append_dropWhile.symm⟩

theorem skipBlanks_append {blanks cs : List Char} (hb : IsBlanks blanks)
    (h : ∀ c ∈ cs.head?, Text.isBlank c = false) : skipBlanks (blanks ++ cs) = cs :=
  Text.dropWhile_append_of_head? hb h

/-! ## Readers and languages -/

/-- Whether a character may follow an expression. -/
def isDelimiter (c : Char) : Bool :=
  Text.isBlank c || c = ',' || c = ')' || c = '=' || c = '!' || c = '<' || c = '>'

/-- A text begins with an expression only if its first character is no delimiter. -/
def StartsExpression (cs : List Char) : Prop :=
  ∃ c ds, cs = c :: ds ∧ isDelimiter c = false

/-- Whether an expression may end in front of a text. -/
def EndsExpression (cs : List Char) : Prop :=
  ∀ c ∈ cs.head?, isDelimiter c = true

/-- A reader takes exactly the texts of a language. -/
structure Reads {α : Type} (read : List Char → Option (α × List Char))
    (language : List Char → α → Prop) : Prop where
  sound {cs rest : List Char} {a : α} :
    read cs = some (a, rest) → ∃ text, language text a ∧ cs = text ++ rest
  complete {text rest : List Char} {a : α} :
    language text a → EndsExpression rest → read (text ++ rest) = some (a, rest)
  starts {text : List Char} {a : α} : language text a → StartsExpression text

theorem isDelimiter_of_isBlank {c : Char} (h : Text.isBlank c = true) : isDelimiter c = true := by
  simp [isDelimiter, h]

theorem EndsExpression.nil : EndsExpression [] := by
  intro c hc
  contradiction

theorem EndsExpression.blanks_append {blanks rest : List Char} (hb : IsBlanks blanks)
    (h : EndsExpression rest) : EndsExpression (blanks ++ rest) := by
  cases blanks with
  | nil => exact h
  | cons c cs =>
      intro d hd
      obtain rfl := Option.some.inj hd
      exact isDelimiter_of_isBlank (hb c List.mem_cons_self)

theorem EndsExpression.cons {c : Char} (h : isDelimiter c = true) (rest : List Char) :
    EndsExpression (c :: rest) := by
  intro d hd
  obtain rfl := Option.some.inj hd
  exact h

theorem StartsExpression.not_isBlank {cs : List Char} (h : StartsExpression cs)
    (rest : List Char) : ∀ c ∈ (cs ++ rest).head?, Text.isBlank c = false := by
  obtain ⟨d, ds, rfl, hd⟩ := h
  intro c hc
  obtain rfl := Option.some.inj hc
  exact Bool.eq_false_iff.mpr fun hb => by simp [isDelimiter_of_isBlank hb] at hd

theorem StartsExpression.skipBlanks_append {blanks cs : List Char} (h : StartsExpression cs)
    (hb : IsBlanks blanks) (rest : List Char) :
    skipBlanks (blanks ++ (cs ++ rest)) = cs ++ rest :=
  Rego.skipBlanks_append hb (h.not_isBlank rest)

section

variable {α β : Type} {read first : List Char → Option (α × List Char)}
  {second : List Char → Option (β × List Char)} {L : List Char → α → Prop}
  {M : List Char → β → Prop}

theorem whole?_eq_some_iff {r : Option (α × List Char)} {a : α} :
    whole? r = some a ↔ r = some (a, []) := by
  match r with
  | none => simp [whole?]
  | some (b, []) => simp [whole?]
  | some (b, c :: cs) => simp [whole?]

theorem Reads.whole?_eq_some_iff (h : Reads read L) {cs : List Char} {a : α} :
    whole? (read cs) = some a ↔ L cs a := by
  rw [Rego.whole?_eq_some_iff]
  constructor
  · intro hread
    obtain ⟨text, ht, rfl⟩ := h.sound hread
    rwa [List.append_nil]
  · intro ht
    simpa using h.complete ht .nil

/-! ## Arguments of calls -/

theorem expect?_eq_some_iff {sign : Char} (hsign : Text.isBlank sign = false)
    {cs rest : List Char} :
    expect? sign cs = some rest ↔ ∃ blanks, IsBlanks blanks ∧ cs = blanks ++ sign :: rest := by
  constructor
  · intro h
    obtain ⟨blanks, hb, hcs⟩ := exists_blanks cs
    unfold expect? at h
    split at h
    · rename_i heq
      split at h
      · rename_i hc
        obtain rfl := Option.some.inj h
        exact ⟨blanks, hb, by rw [← hc, ← heq, ← hcs]⟩
      · contradiction
    · contradiction
  · rintro ⟨blanks, hb, rfl⟩
    have hskip : skipBlanks (blanks ++ sign :: rest) = sign :: rest :=
      skipBlanks_append hb (by simpa using hsign)
    rw [expect?, hskip]
    exact if_pos rfl

/-- An argument and the sign behind it. -/
def argument? (read : List Char → Option (α × List Char)) (sign : Char) (cs : List Char) :
    Option (α × List Char) := do
  let (a, rest) ← read (skipBlanks cs)
  let rest ← expect? sign rest
  some (a, rest)

theorem Reads.argument?_eq_some_iff (h : Reads read L) {sign : Char}
    (hsign : sign = ',' ∨ sign = ')') {cs rest : List Char} {a : α} :
    argument? read sign cs = some (a, rest) ↔
      ∃ text, Padded L text a ∧ cs = text ++ sign :: rest := by
  have hblank : Text.isBlank sign = false := by rcases hsign with rfl | rfl <;> decide
  have hdelimiter : isDelimiter sign = true := by rcases hsign with rfl | rfl <;> decide
  constructor
  · intro hread
    simp only [argument?, bind, Option.bind_eq_some_iff] at hread
    obtain ⟨⟨b, behind⟩, hb, rest', hrest, he⟩ := hread
    obtain ⟨rfl, rfl⟩ := Prod.mk.inj (Option.some.inj he)
    obtain ⟨before, hbefore, hcs⟩ := exists_blanks cs
    obtain ⟨text, ht, hskip⟩ := h.sound hb
    obtain ⟨after, hafter, rfl⟩ := (expect?_eq_some_iff hblank).mp hrest
    refine ⟨before ++ (text ++ after), .intro hbefore ht hafter, ?_⟩
    rw [hcs, hskip]
    simp
  · rintro ⟨_, ⟨hbefore, ht, hafter⟩, rfl⟩
    rename_i before text after
    have hskip : skipBlanks (before ++ (text ++ after) ++ sign :: rest) =
        text ++ (after ++ sign :: rest) := by
      simpa using (h.starts ht).skipBlanks_append hbefore (after ++ sign :: rest)
    have hread := h.complete ht (.blanks_append hafter (.cons hdelimiter rest))
    have hexpect : expect? sign (after ++ sign :: rest) = some rest :=
      (expect?_eq_some_iff hblank).mpr ⟨after, hafter, rfl⟩
    simp only [argument?, hskip, hread, hexpect, bind, Option.bind_some]

theorem arguments?_eq (first : List Char → Option (α × List Char))
    (second : List Char → Option (β × List Char)) (cs : List Char) :
    arguments? first second cs = (argument? first ',' cs).bind fun (a, rest) =>
      (argument? second ')' rest).bind fun (b, rest) =>
        if rest.isEmpty then some (a, b) else none := by
  simp only [arguments?, argument?, bind, Option.bind_assoc, Option.bind_some]

theorem Reads.arguments?_eq_some_iff (hfirst : Reads first L) (hsecond : Reads second M)
    {cs : List Char} {a : α} {b : β} :
    arguments? first second cs = some (a, b) ↔
      ∃ s t, Padded L s a ∧ Padded M t b ∧ cs = s ++ ',' :: (t ++ [')']) := by
  rw [arguments?_eq]
  constructor
  · intro h
    simp only [Option.bind_eq_some_iff] at h
    obtain ⟨⟨a', behind⟩, hs, ⟨b', rest⟩, ht, he⟩ := h
    obtain ⟨s, hsa, rfl⟩ := (hfirst.argument?_eq_some_iff (.inl rfl)).mp hs
    obtain ⟨t, htb, rfl⟩ := (hsecond.argument?_eq_some_iff (.inr rfl)).mp ht
    cases rest with
    | nil =>
        obtain ⟨rfl, rfl⟩ := Prod.mk.inj (Option.some.inj he)
        exact ⟨s, t, hsa, htb, rfl⟩
    | cons c rest => contradiction
  · rintro ⟨s, t, hs, ht, rfl⟩
    have hs' : argument? first ',' (s ++ ',' :: (t ++ [')'])) = some (a, t ++ [')']) :=
      (hfirst.argument?_eq_some_iff (.inl rfl)).mpr ⟨s, hs, rfl⟩
    have ht' : argument? second ')' (t ++ [')']) = some (b, []) :=
      (hsecond.argument?_eq_some_iff (.inr rfl)).mpr ⟨t, ht, rfl⟩
    simp only [hs', ht', Option.bind_some, List.isEmpty_nil, if_pos]

/-! ## Comparisons -/

theorem exists_of_operator? {cs rest : List Char} {order : SizeOrder}
    (h : operator? cs = some (order, rest)) : ∃ text, IsSign text order ∧ cs = text ++ rest := by
  unfold operator? at h
  split at h
  case h_7 => contradiction
  all_goals obtain ⟨rfl, rfl⟩ := Prod.mk.inj (Option.some.inj h)
  case h_1 => exact ⟨['=', '='], by simp [isSign_iff], rfl⟩
  case h_2 => exact ⟨['!', '='], by simp [isSign_iff], rfl⟩
  case h_3 => exact ⟨['>', '='], by simp [isSign_iff], rfl⟩
  case h_4 => exact ⟨['<', '='], by simp [isSign_iff], rfl⟩
  case h_5 => exact ⟨['>'], by simp [isSign_iff], rfl⟩
  case h_6 => exact ⟨['<'], by simp [isSign_iff], rfl⟩

theorem operator?_append {text rest : List Char} {order : SizeOrder} (h : IsSign text order)
    (hrest : ∀ c ∈ rest.head?, c ≠ '=') : operator? (text ++ rest) = some (order, rest) := by
  have hne : ∀ more, rest = '=' :: more → False := by
    rintro more rfl
    exact hrest '=' rfl rfl
  rcases isSign_iff.mp h with
    ⟨rfl, rfl⟩ | ⟨rfl, rfl⟩ | ⟨rfl, rfl⟩ | ⟨rfl, rfl⟩ | ⟨rfl, rfl⟩ | ⟨rfl, rfl⟩
  · rfl
  · rfl
  · rw [List.singleton_append, operator?]
    exact hne
  · rfl
  · rw [List.singleton_append, operator?]
    exact hne
  · rfl

theorem IsSign.exists_cons {sign : List Char} {order : SizeOrder} (h : IsSign sign order) :
    ∃ c cs, sign = c :: cs ∧ isDelimiter c = true ∧ Text.isBlank c = false := by
  rcases isSign_iff.mp h with ⟨rfl, -⟩ | ⟨rfl, -⟩ | ⟨rfl, -⟩ | ⟨rfl, -⟩ | ⟨rfl, -⟩ | ⟨rfl, -⟩
  all_goals exact ⟨_, _, rfl, by decide, by decide⟩

theorem IsSign.skipBlanks_append {blanks sign : List Char} {order : SizeOrder}
    (h : IsSign sign order) (hb : IsBlanks blanks) (rest : List Char) :
    skipBlanks (blanks ++ (sign ++ rest)) = sign ++ rest := by
  obtain ⟨c, cs, rfl, -, hc⟩ := h.exists_cons
  exact Rego.skipBlanks_append hb (by simpa using hc)

theorem EndsExpression.sign_append {sign : List Char} {order : SizeOrder}
    (h : Padded IsSign sign order) (rest : List Char) : EndsExpression (sign ++ rest) := by
  obtain ⟨hbefore, hsign, -⟩ := h
  obtain ⟨c, cs, rfl, hc, -⟩ := hsign.exists_cons
  simpa using EndsExpression.blanks_append hbefore (.cons hc _)

theorem sign_ne_nil {sign : List Char} {order : SizeOrder} (h : Padded IsSign sign order) :
    sign ≠ [] := by
  obtain ⟨-, hsign, -⟩ := h
  obtain ⟨c, cs, rfl, -, -⟩ := hsign.exists_cons
  simp

/-- Behind a sign stands no second equals sign. -/
theorem StartsExpression.head?_ne_equals {blanks cs : List Char} (h : StartsExpression cs)
    (hb : IsBlanks blanks) : ∀ c ∈ (blanks ++ cs).head?, c ≠ '=' := by
  rintro c hc rfl
  obtain ⟨d, ds, rfl, hd⟩ := h
  cases blanks with
  | nil =>
      obtain rfl := Option.some.inj hc
      exact absurd hd (by decide)
  | cons b bs =>
      obtain rfl := Option.some.inj hc
      exact absurd (hb '=' List.mem_cons_self) (by decide)

/-- A sign with blanks around it, and what stands behind it. -/
def compared? (finish : List Char → Option β) (cs : List Char) : Option (SizeOrder × β) := do
  let (order, rest) ← operator? (skipBlanks cs)
  let b ← finish (skipBlanks rest)
  some (order, b)

theorem compared?_eq_some_iff {finish : List Char → Option β}
    (hfinish : ∀ {cs : List Char} {b : β}, finish cs = some b ↔ M cs b)
    (hstarts : ∀ {cs : List Char} {b : β}, M cs b → StartsExpression cs) {cs : List Char}
    {order : SizeOrder} {b : β} :
    compared? finish cs = some (order, b) ↔
      ∃ sign text, Padded IsSign sign order ∧ M text b ∧ cs = sign ++ text := by
  constructor
  · intro h
    simp only [compared?, bind, Option.bind_eq_some_iff] at h
    obtain ⟨⟨order', behind⟩, hread, b', hb, he⟩ := h
    obtain ⟨rfl, rfl⟩ := Prod.mk.inj (Option.some.inj he)
    obtain ⟨before, hbefore, hcs⟩ := exists_blanks cs
    obtain ⟨after, hafter, hbehind⟩ := exists_blanks behind
    obtain ⟨sign, hsign, hskip⟩ := exists_of_operator? hread
    refine ⟨before ++ (sign ++ after), skipBlanks behind, .intro hbefore hsign hafter,
      hfinish.mp hb, ?_⟩
    rw [hcs, hskip]
    simp [← hbehind]
  · rintro ⟨_, text, ⟨hbefore, hsign, hafter⟩, ht, rfl⟩
    rename_i before sign after
    have hstart := hstarts ht
    have hskip : skipBlanks (before ++ (sign ++ after) ++ text) = sign ++ (after ++ text) := by
      simpa using hsign.skipBlanks_append hbefore (after ++ text)
    have hread := operator?_append hsign (hstart.head?_ne_equals hafter)
    have hbehind : skipBlanks (after ++ text) = text := by
      simpa using hstart.skipBlanks_append hafter []
    simp only [compared?, hskip, hread, hbehind, hfinish.mpr ht, bind, Option.bind_some]

end

end Guardrail.Rego
