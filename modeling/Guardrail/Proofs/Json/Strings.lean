import Guardrail.Json.Token

/-!
# JSON strings

What may stand between the quotes of a string, and the characters that it stands for. The reader of
strings takes exactly such a text, up to the quote that closes it.
-/

namespace Guardrail.Json

/-! ## How characters are written -/

/-- Four hexadecimal digits and the number that they write. -/
inductive IsHexQuad : List Char → Nat → Prop where
  | intro {a b c d : Char} {w x y z : Nat} (ha : Text.hexDigit? a = some w)
      (hb : Text.hexDigit? b = some x) (hc : Text.hexDigit? c = some y)
      (hd : Text.hexDigit? d = some z) :
      IsHexQuad [a, b, c, d] (((w * 16 + x) * 16 + y) * 16 + z)

/-- The escapes of one letter. -/
def letterEscapes : List (Char × Char) :=
  [('"', '"'), ('\\', '\\'), ('/', '/'), ('b', '\x08'), ('f', '\x0c'), ('n', '\n'), ('r', '\r'),
    ('t', '\t')]

/-- What may follow a backslash, and the character that both stand for. -/
inductive IsEscape : List Char → Char → Prop where
  | letter {e c : Char} (h : (e, c) ∈ letterEscapes) : IsEscape [e] c
  | unit {quad : List Char} {n : Nat} (hq : IsHexQuad quad n) (hn : n < 0xd800 ∨ 0xdfff < n) :
      IsEscape ('u' :: quad) (Char.ofNat n)
  | pair {high low : List Char} {m n : Nat} (hh : IsHexQuad high m) (hl : IsHexQuad low n)
      (hm : 0xd800 ≤ m ∧ m ≤ 0xdbff) (hn : 0xdc00 ≤ n ∧ n ≤ 0xdfff) :
      IsEscape ('u' :: high ++ '\\' :: 'u' :: low) (Token.pairChar m n)

/-- What may stand between quotes, and the characters that it stands for. -/
inductive IsString : List Char → List Char → Prop where
  | nil : IsString [] []
  | plain {c : Char} {cs s : List Char} (hquote : c ≠ '"') (hslash : c ≠ '\\')
      (hcontrol : 0x20 ≤ c.toNat) (h : IsString cs s) : IsString (c :: cs) (c :: s)
  | escape {escape cs s : List Char} {c : Char} (he : IsEscape escape c) (h : IsString cs s) :
      IsString ('\\' :: escape ++ cs) (c :: s)

namespace Token

/-! ## Reading escapes -/

theorem hexQuad?_eq_some_iff {cs rest : List Char} {n : Nat} :
    hexQuad? cs = some (n, rest) ↔ ∃ quad, IsHexQuad quad n ∧ cs = quad ++ rest := by
  constructor
  · intro h
    match cs with
    | a :: b :: c :: d :: tail =>
        simp only [hexQuad?, bind, Option.bind_eq_some_iff] at h
        obtain ⟨w, ha, x, hb, y, hc, z, hd, he⟩ := h
        obtain ⟨rfl, rfl⟩ := Prod.mk.inj (Option.some.inj he)
        exact ⟨[a, b, c, d], .intro ha hb hc hd, rfl⟩
  · rintro ⟨_, ⟨ha, hb, hc, hd⟩, rfl⟩
    simp [hexQuad?, ha, hb, hc, hd]

theorem unicodeEscape?_unit {quad : List Char} {n : Nat} (hq : IsHexQuad quad n)
    (hn : n < 0xd800 ∨ 0xdfff < n) (rest : List Char) :
    unicodeEscape? (quad ++ rest) = some (some (Char.ofNat n), rest) := by
  have hread : hexQuad? (quad ++ rest) = some (n, rest) := hexQuad?_eq_some_iff.mpr ⟨quad, hq, rfl⟩
  simp only [unicodeEscape?, hread, bind, Option.bind_some, if_pos hn]

theorem unicodeEscape?_pair {high low : List Char} {m n : Nat} (hh : IsHexQuad high m)
    (hl : IsHexQuad low n) (hm : 0xd800 ≤ m ∧ m ≤ 0xdbff) (hn : 0xdc00 ≤ n ∧ n ≤ 0xdfff)
    (rest : List Char) :
    unicodeEscape? (high ++ '\\' :: 'u' :: (low ++ rest)) = some (some (pairChar m n), rest) := by
  have hhigh : hexQuad? (high ++ '\\' :: 'u' :: (low ++ rest)) =
      some (m, '\\' :: 'u' :: (low ++ rest)) := hexQuad?_eq_some_iff.mpr ⟨high, hh, rfl⟩
  have hlow : hexQuad? (low ++ rest) = some (n, rest) := hexQuad?_eq_some_iff.mpr ⟨low, hl, rfl⟩
  have hafter : Text.after? ['\\', 'u'] ('\\' :: 'u' :: (low ++ rest)) = some (low ++ rest) := rfl
  have hhalf : ¬(m < 0xd800 ∨ 0xdfff < m) := by omega
  have hpair : m ≤ 0xdbff ∧ 0xdc00 ≤ n ∧ n ≤ 0xdfff := ⟨hm.2, hn⟩
  simp only [unicodeEscape?, hhigh, hafter, hlow, bind, Option.bind_some, if_neg hhalf,
    if_pos hpair]

theorem exists_of_unicodeEscape? {cs rest : List Char} {c : Char}
    (h : unicodeEscape? cs = some (some c, rest)) :
    ∃ text, IsEscape ('u' :: text) c ∧ cs = text ++ rest := by
  simp only [unicodeEscape?, bind, Option.bind_eq_some_iff] at h
  obtain ⟨⟨m, behind⟩, hm, h⟩ := h
  obtain ⟨high, hhigh, rfl⟩ := hexQuad?_eq_some_iff.mp hm
  dsimp only at h
  by_cases hunit : m < 0xd800 ∨ 0xdfff < m
  · rw [if_pos hunit] at h
    obtain ⟨hc, rfl⟩ := Prod.mk.inj (Option.some.inj h)
    obtain rfl := Option.some.inj hc
    exact ⟨high, .unit hhigh hunit, rfl⟩
  · rw [if_neg hunit] at h
    split at h
    · rename_i n low hlow
      obtain ⟨behind', ha, hn⟩ := Option.bind_eq_some_iff.mp hlow
      obtain ⟨quad, hquad, rfl⟩ := hexQuad?_eq_some_iff.mp hn
      rw [Text.after?_eq_some_iff] at ha
      split at h
      · rename_i hpair
        obtain ⟨hc, rfl⟩ := Prod.mk.inj (Option.some.inj h)
        obtain rfl := Option.some.inj hc
        refine ⟨high ++ '\\' :: 'u' :: quad, ?_, by simp [ha]⟩
        exact .pair hhigh hquad (by omega) hpair.2
      · simp at h
    · simp at h

theorem escaped?_letter {e c : Char} (h : (e, c) ∈ letterEscapes) (rest : List Char) :
    escaped? (e :: rest) = some (some c, rest) := by
  simp only [letterEscapes, List.mem_cons, Prod.mk.injEq, List.not_mem_nil, or_false] at h
  rcases h with ⟨rfl, rfl⟩ | ⟨rfl, rfl⟩ | ⟨rfl, rfl⟩ | ⟨rfl, rfl⟩ | ⟨rfl, rfl⟩ | ⟨rfl, rfl⟩ |
    ⟨rfl, rfl⟩ | ⟨rfl, rfl⟩ <;> rfl

theorem letter_or_unicode_of_escaped? {e : Char} {cs rest : List Char} {c? : Option Char}
    (h : escaped? (e :: cs) = some (c?, rest)) :
    (∃ c, (e, c) ∈ letterEscapes ∧ c? = some c ∧ cs = rest) ∨
      e = 'u' ∧ unicodeEscape? cs = some (c?, rest) := by
  unfold escaped? at h
  simp only [letterEscapes, List.mem_cons, Prod.mk.injEq, List.not_mem_nil, or_false]
  grind

/-- An escape is read up to its end. -/
theorem escaped?_eq_some_iff {cs rest : List Char} {c : Char} :
    escaped? cs = some (some c, rest) ↔ ∃ text, IsEscape text c ∧ cs = text ++ rest := by
  constructor
  · intro h
    cases cs with
    | nil => simp [escaped?] at h
    | cons e cs =>
        rcases letter_or_unicode_of_escaped? h with ⟨d, hd, hc, rfl⟩ | ⟨rfl, hu⟩
        · obtain rfl := Option.some.inj hc
          exact ⟨[e], .letter hd, rfl⟩
        · obtain ⟨text, ht, rfl⟩ := exists_of_unicodeEscape? hu
          exact ⟨'u' :: text, ht, rfl⟩
  · rintro ⟨text, ht, rfl⟩
    cases ht with
    | letter h => exact escaped?_letter h rest
    | unit hq hn => exact unicodeEscape?_unit hq hn rest
    | pair hh hl hm hn => simpa [escaped?] using unicodeEscape?_pair hh hl hm hn rest

/-! ## Reading strings -/

theorem quoted?_append {cs s : List Char} (h : IsString cs s) (read rest : List Char) :
    quoted? (some read) (cs ++ '"' :: rest) = some (some (read.reverse ++ s), rest) := by
  -- every character that is read goes in front of `read`, which therefore stays arbitrary
  induction h generalizing read with
  | nil => simp [quoted?]
  | plain hquote hslash hcontrol _ ih =>
      have hcontrol' := Nat.not_lt_of_le hcontrol
      rw [List.cons_append, quoted?, if_neg hquote, if_neg hslash, if_neg hcontrol',
        Option.map_some, ih]
      simp
  | @escape escape cs s c he _ ih =>
      have hread : escaped? (escape ++ cs ++ '"' :: rest) = some (some c, cs ++ '"' :: rest) :=
        escaped?_eq_some_iff.mpr ⟨escape, he, by simp⟩
      rw [List.cons_append, List.cons_append, quoted?, if_neg (by decide), if_pos rfl]
      split
      · rename_i e? rest' heq
        rw [hread] at heq
        obtain ⟨rfl, rfl⟩ := Prod.mk.inj (Option.some.inj heq)
        simpa using ih (c :: read)
      · rename_i heq
        rw [hread] at heq
        contradiction

theorem exists_of_quoted? {read? : Option (List Char)} {cs s rest : List Char}
    (h : quoted? read? cs = some (some s, rest)) :
    ∃ read body t, read? = some read ∧ IsString body t ∧ cs = body ++ '"' :: rest ∧
      s = read.reverse ++ t := by
  fun_induction quoted? read? cs with
  | case1 => simp at h
  | case2 read? tail =>
      obtain ⟨hs, rfl⟩ := Prod.mk.inj (Option.some.inj h)
      obtain ⟨read, rfl, rfl⟩ := Option.map_eq_some_iff.mp hs
      exact ⟨read, [], [], rfl, .nil, rfl, by simp⟩
  | case3 read? tail c? behind hc _ _ ih =>
      obtain ⟨read', body, t, hread, hbody, rfl, rfl⟩ := ih h
      obtain ⟨read, rfl, hcons⟩ := Option.bind_eq_some_iff.mp hread
      obtain ⟨c, rfl, rfl⟩ := Option.map_eq_some_iff.mp hcons
      obtain ⟨escape, hescape, rfl⟩ := escaped?_eq_some_iff.mp hc
      exact ⟨read, '\\' :: escape ++ body, c :: t, rfl, .escape hescape hbody, by simp, by simp⟩
  | case4 => simp at h
  | case5 => simp at h
  | case6 read? c tail hquote hslash hcontrol ih =>
      obtain ⟨read', body, t, hread, hbody, rfl, rfl⟩ := ih h
      obtain ⟨read, rfl, rfl⟩ := Option.map_eq_some_iff.mp hread
      have hplain : IsString (c :: body) (c :: t) :=
        .plain hquote hslash (Nat.le_of_not_lt hcontrol) hbody
      exact ⟨read, c :: body, c :: t, rfl, hplain, rfl, by simp⟩

/-- A string is read up to the quote that closes it. -/
theorem quoted?_eq_some_iff {cs s rest : List Char} :
    quoted? (some []) cs = some (some s, rest) ↔
      ∃ body, IsString body s ∧ cs = body ++ '"' :: rest := by
  constructor
  · intro h
    obtain ⟨read, body, t, hread, hbody, rfl, rfl⟩ := exists_of_quoted? h
    obtain rfl := Option.some.inj hread
    exact ⟨body, hbody, rfl⟩
  · rintro ⟨body, hbody, rfl⟩
    exact quoted?_append hbody [] rest

end Token

end Guardrail.Json
