import Guardrail.Json.Token
import Guardrail.Proofs.Text.Search
import Mathlib.Data.List.TakeDrop

/-!
# JSON numerals

How a number may be written: a sign that may be missing, digits without a zero in front, a point
with digits, and an exponent. The reader of numerals takes exactly such a text.
-/

namespace Guardrail.Number

open Decimal (spanDigits)

/-! ## The parts of a numeral -/

/-- A run of digits, at least one. -/
structure IsDigits (ds : List Char) : Prop where
  ne_nil : ds ≠ []
  isDigit_of_mem : ∀ c ∈ ds, c.isDigit = true

/-- A point and digits, or nothing. -/
inductive IsPlaces : List Char → Option (List Char) → Prop where
  | none : IsPlaces [] none
  | some {ds : List Char} (h : IsDigits ds) : IsPlaces ('.' :: ds) (some ds)

/-- The signs of an exponent, and whether they make it negative. -/
def exponentSigns : List (List Char × Bool) :=
  [([], false), (['+'], false), (['-'], true)]

@[simp] theorem mem_exponentSigns {sign : List Char} {negative : Bool} :
    (sign, negative) ∈ exponentSigns ↔ sign = [] ∧ negative = false ∨
      sign = ['+'] ∧ negative = false ∨ sign = ['-'] ∧ negative = true := by
  simp [exponentSigns]

/-- An exponent, or nothing. -/
inductive IsExponent : List Char → Option (Bool × List Char) → Prop where
  | none : IsExponent [] none
  | some {mark : Char} {sign ds : List Char} {negative : Bool} (hmark : mark = 'e' ∨ mark = 'E')
      (hsign : (sign, negative) ∈ exponentSigns) (h : IsDigits ds) :
      IsExponent (mark :: (sign ++ ds)) (some (negative, ds))

/-- The signs of a numeral, and whether they make it negative. -/
def numeralSigns : List (List Char × Bool) :=
  [([], false), (['-'], true)]

@[simp] theorem mem_numeralSigns {sign : List Char} {negative : Bool} :
    (sign, negative) ∈ numeralSigns ↔
      sign = [] ∧ negative = false ∨ sign = ['-'] ∧ negative = true := by
  simp [numeralSigns]

/-- A numeral and its parts. -/
inductive IsNumeral : List Char → Numeral → Prop where
  | intro {sign whole places exponent : List Char} {negative : Bool} {places? : Option (List Char)}
      {exponent? : Option (Bool × List Char)} (hsign : (sign, negative) ∈ numeralSigns)
      (hwhole : IsDigits whole) (hzero : whole.head? = some '0' → whole = ['0'])
      (hplaces : IsPlaces places places?) (hexponent : IsExponent exponent exponent?) :
      IsNumeral (sign ++ (whole ++ (places ++ exponent))) ⟨negative, whole, places?, exponent?⟩

/-! ## Reading digits -/

theorem spanDigits_eq (cs : List Char) :
    spanDigits cs = (cs.takeWhile Char.isDigit, cs.dropWhile Char.isDigit) :=
  List.span_eq_takeWhile_dropWhile _ cs

theorem spanDigits_append {ds rest : List Char} (h : IsDigits ds)
    (hrest : ∀ c ∈ rest.head?, c.isDigit = false) : spanDigits (ds ++ rest) = (ds, rest) := by
  rw [spanDigits_eq, Text.takeWhile_append_of_head? h.isDigit_of_mem hrest,
    Text.dropWhile_append_of_head? h.isDigit_of_mem hrest]

theorem isDigits_of_spanDigits {cs ds rest : List Char} (h : spanDigits cs = (ds, rest))
    (hne : ds ≠ []) : IsDigits ds ∧ cs = ds ++ rest := by
  rw [spanDigits_eq] at h
  obtain ⟨rfl, rfl⟩ := Prod.mk.inj h
  exact ⟨⟨hne, Text.forall_mem_takeWhile _ _⟩, List.takeWhile_append_dropWhile.symm⟩

theorem isDigits_iff {ds : List Char} :
    IsDigits ds ↔ (ds.isEmpty || !ds.all Char.isDigit) = false := by
  constructor
  · rintro ⟨hne, hall⟩
    simpa [hne] using hall
  · intro h
    simp only [Bool.or_eq_false_iff, List.isEmpty_eq_false_iff, Bool.not_eq_false',
      List.all_eq_true] at h
    exact ⟨h.1, h.2⟩

theorem IsDigits.head {d : Char} {ds : List Char} (h : IsDigits (d :: ds)) : d.isDigit = true :=
  h.isDigit_of_mem d List.mem_cons_self

/-! ## Reading exponents -/

theorem exponentOf?_append {mark : Char} {sign ds : List Char} {negative : Bool}
    (hmark : mark = 'e' ∨ mark = 'E') (hsign : (sign, negative) ∈ exponentSigns)
    (h : IsDigits ds) :
    Numeral.exponentOf? (mark :: (sign ++ ds)) = some (some (negative, ds)) := by
  have hdigits := isDigits_iff.mp h
  unfold Numeral.exponentOf?
  simp only [if_pos hmark]
  rcases mem_exponentSigns.mp hsign with ⟨rfl, rfl⟩ | ⟨rfl, rfl⟩ | ⟨rfl, rfl⟩
  · rw [List.nil_append]
    split
    · exact absurd h.head (by decide)
    · exact absurd h.head (by decide)
    · simpa using hdigits
  · simpa using hdigits
  · simpa using hdigits

theorem isExponent_of_digits {mark : Char} (sign : List Char) {ds : List Char} {negative : Bool}
    {e? : Option (Bool × List Char)} (hmark : mark = 'e' ∨ mark = 'E')
    (hsign : (sign, negative) ∈ exponentSigns)
    (h : (if (ds.isEmpty || !ds.all Char.isDigit) = true then none
      else some (some (negative, ds))) = some e?) : IsExponent (mark :: (sign ++ ds)) e? := by
  split at h
  · contradiction
  · rename_i hdigits
    obtain rfl := Option.some.inj h
    exact .some hmark hsign (isDigits_iff.mpr (Bool.eq_false_iff.mpr hdigits))

theorem exponentOf?_eq_some_iff {cs : List Char} {e? : Option (Bool × List Char)} :
    Numeral.exponentOf? cs = some e? ↔ IsExponent cs e? := by
  constructor
  · intro h
    cases cs with
    | nil =>
        obtain rfl := Option.some.inj h
        exact .none
    | cons mark cs =>
        unfold Numeral.exponentOf? at h
        dsimp only at h
        split at h
        · rename_i hmark
          split at h
          · exact isExponent_of_digits ['-'] hmark (by simp) h
          · exact isExponent_of_digits ['+'] hmark (by simp) h
          · exact isExponent_of_digits [] hmark (by simp) h
        · contradiction
  · intro h
    cases h with
    | none => rfl
    | some hmark hsign hds => exact exponentOf?_append hmark hsign hds

theorem IsExponent.head {cs : List Char} {e? : Option (Bool × List Char)}
    (h : IsExponent cs e?) : ∀ c ∈ cs.head?, c.isDigit = false ∧ c ≠ '.' := by
  intro c hc
  cases h with
  | none => contradiction
  | some hmark hsign hds =>
      obtain rfl := Option.some.inj hc
      rcases hmark with rfl | rfl <;> decide

/-! ## Reading numerals -/

/-- The numeral that a text without sign is. -/
def unsigned? (negative : Bool) (body : List Char) : Option Numeral :=
  let (whole, rest) := spanDigits body
  if whole.isEmpty || (whole.head? = some '0' && whole.length ≠ 1) then none
  else
    match rest with
    | '.' :: more =>
      let (places, tail) := spanDigits more
      if places.isEmpty then none
      else (Numeral.exponentOf? tail).map (⟨negative, whole, some places, ·⟩)
    | _ => (Numeral.exponentOf? rest).map (⟨negative, whole, none, ·⟩)

theorem ofChars?_minus (cs : List Char) : Numeral.ofChars? ('-' :: cs) = unsigned? true cs := rfl

theorem ofChars?_of_head? {cs : List Char} (h : ∀ c ∈ cs.head?, c ≠ '-') :
    Numeral.ofChars? cs = unsigned? false cs := by
  unfold Numeral.ofChars?
  split
  rename_i heq
  split at heq
  · exact absurd rfl (h '-' rfl)
  · cases heq
    rfl

/-- No digits stand behind a zero in front. -/
theorem noLeadingZero_iff {whole : List Char} (h : IsDigits whole) :
    (whole.isEmpty || (whole.head? = some '0' && whole.length ≠ 1)) = false ↔
      (whole.head? = some '0' → whole = ['0']) := by
  cases whole with
  | nil => exact absurd rfl h.ne_nil
  | cons c cs => cases cs <;> simp

theorem unsigned?_append {whole places exponent : List Char} {places? : Option (List Char)}
    {exponent? : Option (Bool × List Char)} (negative : Bool) (hwhole : IsDigits whole)
    (hzero : whole.head? = some '0' → whole = ['0']) (hplaces : IsPlaces places places?)
    (hexponent : IsExponent exponent exponent?) :
    unsigned? negative (whole ++ (places ++ exponent)) =
      some ⟨negative, whole, places?, exponent?⟩ := by
  have hfirst := (noLeadingZero_iff hwhole).mpr hzero
  have hexp := exponentOf?_eq_some_iff.mpr hexponent
  have hdigit : ∀ c ∈ exponent.head?, c.isDigit = false := fun c hc => (hexponent.head c hc).1
  cases hplaces with
  | none =>
      rw [List.nil_append, unsigned?, spanDigits_append hwhole hdigit]
      dsimp only
      rw [hfirst, if_neg Bool.false_ne_true]
      split
      · exact absurd rfl (hexponent.head '.' (by simp)).2
      · rw [hexp, Option.map_some]
  | @some ds hds =>
      have hpoint : ∀ c ∈ ('.' :: (ds ++ exponent)).head?, c.isDigit = false := by
        intro c hc
        obtain rfl := Option.some.inj hc
        decide
      rw [List.cons_append, unsigned?, spanDigits_append hwhole hpoint]
      dsimp only
      rw [hfirst, if_neg Bool.false_ne_true]
      simp [spanDigits_append hds hdigit, hds.ne_nil, hexp]

theorem exists_of_unsigned? {negative : Bool} {body : List Char} {n : Numeral}
    (h : unsigned? negative body = some n) :
    ∃ whole places exponent places? exponent?, IsDigits whole ∧
      (whole.head? = some '0' → whole = ['0']) ∧ IsPlaces places places? ∧
      IsExponent exponent exponent? ∧ body = whole ++ (places ++ exponent) ∧
      n = ⟨negative, whole, places?, exponent?⟩ := by
  unfold unsigned? at h
  split at h
  rename_i whole rest hspan
  split at h
  · contradiction
  · rename_i hfirst
    have hne : whole ≠ [] := by
      rintro rfl
      exact hfirst rfl
    obtain ⟨hwhole, rfl⟩ := isDigits_of_spanDigits hspan hne
    have hzero := (noLeadingZero_iff hwhole).mp (Bool.eq_false_iff.mpr hfirst)
    split at h
    · rename_i more
      split at h
      rename_i places tail hplaces
      split at h
      · contradiction
      · rename_i hne
        obtain ⟨hdigits, rfl⟩ := isDigits_of_spanDigits hplaces (by simpa using hne)
        obtain ⟨e?, he, rfl⟩ := Option.map_eq_some_iff.mp h
        exact ⟨whole, '.' :: places, tail, some places, e?, hwhole, hzero, .some hdigits,
          exponentOf?_eq_some_iff.mp he, rfl, rfl⟩
    · obtain ⟨e?, he, rfl⟩ := Option.map_eq_some_iff.mp h
      exact ⟨whole, [], rest, none, e?, hwhole, hzero, .none, exponentOf?_eq_some_iff.mp he, rfl,
        rfl⟩

theorem isNumeral_of_unsigned? (sign : List Char) {body : List Char} {negative : Bool}
    {n : Numeral}
    (hsign : (sign, negative) ∈ numeralSigns) (h : unsigned? negative body = some n) :
    IsNumeral (sign ++ body) n := by
  obtain ⟨_, _, _, _, _, hwhole, hzero, hplaces, hexponent, rfl, rfl⟩ := exists_of_unsigned? h
  exact .intro hsign hwhole hzero hplaces hexponent

/-- The reader of numerals takes exactly the numerals. -/
theorem ofChars?_eq_some_iff {cs : List Char} {n : Numeral} :
    Numeral.ofChars? cs = some n ↔ IsNumeral cs n := by
  constructor
  · intro h
    by_cases hminus : cs.head? = some '-'
    · obtain ⟨body, rfl⟩ := List.head?_eq_some_iff.mp hminus
      rw [ofChars?_minus] at h
      exact isNumeral_of_unsigned? ['-'] (by simp) h
    · rw [ofChars?_of_head? (by rintro c hc rfl; exact hminus hc)] at h
      exact isNumeral_of_unsigned? [] (by simp) h
  · rintro ⟨hsign, hwhole, hzero, hplaces, hexponent⟩
    rcases mem_numeralSigns.mp hsign with ⟨rfl, rfl⟩ | ⟨rfl, rfl⟩
    · rw [List.nil_append, ofChars?_of_head?]
      · exact unsigned?_append false hwhole hzero hplaces hexponent
      · obtain ⟨d, ds, rfl⟩ := List.exists_cons_of_ne_nil hwhole.ne_nil
        rintro c hc rfl
        obtain rfl := Option.some.inj hc
        exact absurd hwhole.head (by decide)
    · exact unsigned?_append true hwhole hzero hplaces hexponent

/-! ## Characters of numerals -/

theorem IsNumeral.exists_cons {cs : List Char} {n : Numeral} (h : IsNumeral cs n) :
    ∃ c rest, cs = c :: rest ∧ (c.isDigit = true ∨ c = '-') := by
  obtain ⟨hsign, hwhole, -, -, -⟩ := h
  rcases mem_numeralSigns.mp hsign with ⟨rfl, -⟩ | ⟨rfl, -⟩
  · obtain ⟨d, ds, rfl⟩ := List.exists_cons_of_ne_nil hwhole.ne_nil
    exact ⟨d, _, rfl, .inl hwhole.head⟩
  · exact ⟨'-', _, rfl, .inr rfl⟩

open Json.Token (isWordChar)

theorem IsDigits.isWordChar_of_mem {ds : List Char} (h : IsDigits ds) {c : Char} (hc : c ∈ ds) :
    isWordChar c = true := by
  simp [isWordChar, Char.isAlphanum, h.isDigit_of_mem c hc]

theorem IsPlaces.isWordChar_of_mem {cs : List Char} {places? : Option (List Char)}
    (h : IsPlaces cs places?) {c : Char} (hc : c ∈ cs) : isWordChar c = true := by
  cases h with
  | none => contradiction
  | some h =>
      rcases List.mem_cons.mp hc with rfl | hc
      · rfl
      · exact h.isWordChar_of_mem hc

theorem isWordChar_of_sign {sign : List Char} {negative : Bool}
    (h : (sign, negative) ∈ exponentSigns) {c : Char} (hc : c ∈ sign) : isWordChar c = true := by
  rcases mem_exponentSigns.mp h with ⟨rfl, -⟩ | ⟨rfl, -⟩ | ⟨rfl, -⟩
  · contradiction
  · obtain rfl := List.mem_singleton.mp hc
    rfl
  · obtain rfl := List.mem_singleton.mp hc
    rfl

theorem IsExponent.isWordChar_of_mem {cs : List Char} {e? : Option (Bool × List Char)}
    (h : IsExponent cs e?) {c : Char} (hc : c ∈ cs) : isWordChar c = true := by
  cases h with
  | none => contradiction
  | some hmark hsign hds =>
      rcases List.mem_cons.mp hc with rfl | hc
      · rcases hmark with rfl | rfl <;> rfl
      · rcases List.mem_append.mp hc with hc | hc
        · exact isWordChar_of_sign hsign hc
        · exact hds.isWordChar_of_mem hc

theorem IsNumeral.isWordChar_of_mem {cs : List Char} {n : Numeral} (h : IsNumeral cs n) {c : Char}
    (hc : c ∈ cs) : isWordChar c = true := by
  obtain ⟨hsign, hwhole, -, hplaces, hexponent⟩ := h
  have hsub : numeralSigns ⊆ exponentSigns := by simp [numeralSigns, exponentSigns]
  simp only [List.mem_append] at hc
  rcases hc with hc | hc | hc | hc
  · exact isWordChar_of_sign (hsub hsign) hc
  · exact hwhole.isWordChar_of_mem hc
  · exact hplaces.isWordChar_of_mem hc
  · exact hexponent.isWordChar_of_mem hc

end Guardrail.Number
