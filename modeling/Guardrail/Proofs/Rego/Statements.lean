import Guardrail.Proofs.Rego.Expressions

/-!
# Understood statements

A statement has a condition exactly if it belongs to the grammar, and then it is the condition that
the grammar gives it. The readers of the single forms are tried in a fixed order; a text of one form
is read by no reader that is tried before its own.
-/

namespace Guardrail.Rego

/-! ## Signs and conditions -/

theorem isMirroredSign_flip {sign : List Char} {order : SizeOrder} :
    IsMirroredSign sign (flip order) ↔ IsSign sign order := by
  cases order <;> simp [IsMirroredSign, IsSign, mirroredSigns, signs, flip]

theorem flip_flip (order : SizeOrder) : flip (flip order) = order := by
  cases order <;> rfl

theorem Padded.map {α β : Type} {L : List Char → α → Prop} {M : List Char → β → Prop} {a : α}
    {b : β} (h : ∀ cs, L cs a → M cs b) {cs : List Char} (hcs : Padded L cs a) : Padded M cs b := by
  obtain ⟨hbefore, hcs, hbehind⟩ := hcs
  exact .intro hbefore (h _ hcs) hbehind

theorem comparison?_eq_some_iff {field : String} {order : SizeOrder} {value : Json}
    {c : Condition} : comparison? field order value = some c ↔ Compares field order value c := by
  constructor
  · intro h
    cases order
    case equal => obtain rfl := Option.some.inj h; exact .equal value
    case unequal => obtain rfl := Option.some.inj h; exact .unequal value
    all_goals
      cases value
      case number n =>
        obtain rfl := Option.some.inj h
        constructor
      all_goals contradiction
  · intro h
    cases h <;> rfl

/-! ## Tests of a path -/

theorem isStatement_of_absence? {cs : List Char} {c : Condition} (h : absence? cs = some c) :
    IsStatement cs c := by
  simp only [absence?, bind, Option.bind_eq_some_iff, Text.after?_eq_some_iff] at h
  obtain ⟨rest, rfl, h⟩ := h
  split at h
  · contradiction
  · rename_i hne
    obtain ⟨field, hfield, rfl⟩ := Option.map_eq_some_iff.mp h
    obtain ⟨blanks, hblanks, hrest⟩ := exists_blanks rest
    have hpath := reads_path.whole?_eq_some_iff.mp hfield
    rw [hrest]
    refine .absent hblanks ?_ hpath
    rintro rfl
    exact hne hrest.symm

theorem absence?_append {blanks path : List Char} {field : String} (hblanks : IsBlanks blanks)
    (hne : blanks ≠ []) (hpath : IsPath path field) :
    absence? ("not".toList ++ (blanks ++ path)) = some (.absent field) := by
  have hafter : Text.after? ['n', 'o', 't'] ("not".toList ++ (blanks ++ path)) =
      some (blanks ++ path) := Text.after?_eq_some_iff.mpr rfl
  have hskip : skipBlanks (blanks ++ path) = path := by
    simpa using (reads_path.starts hpath).skipBlanks_append hblanks []
  have hlonger : path ≠ blanks ++ path := by simpa using hne
  have hwhole := reads_path.whole?_eq_some_iff.mpr hpath
  simp only [absence?, hafter, bind, Option.bind_some, hskip, if_neg hlonger, hwhole,
    Option.map_some]

/-- The number that a text without blanks is. -/
def count? (digits : List Char) : Option Nat :=
  if digits.isEmpty || !digits.all Char.isDigit || greatestCount < Decimal.natOfDigits digits then
    none
  else some (Decimal.natOfDigits digits)

theorem count?_eq_some_iff {digits : List Char} {n : Nat} :
    count? digits = some n ↔ IsCount digits n := by
  have hgreatest : greatestCount = Decimal.twoTo 64 - 1 := rfl
  have hpos : 0 < Decimal.twoTo 64 := by decide
  constructor
  · intro h
    unfold count? at h
    split at h
    · contradiction
    · rename_i hcount
      obtain rfl := Option.some.inj h
      simp only [Bool.or_eq_true, not_or, decide_eq_true_eq] at hcount
      refine .intro (Number.isDigits_iff.mpr ?_) (by omega)
      simpa using hcount.1
  · rintro ⟨hdigits, hfits⟩
    have hbound : ¬greatestCount < Decimal.natOfDigits digits := by omega
    simp [count?, Number.isDigits_iff.mp hdigits, hbound]

theorem count?_bind {α : Type} (digits : List Char) (f : Nat → Option α) :
    (count? digits).bind f =
      if digits.isEmpty || !digits.all Char.isDigit || greatestCount < Decimal.natOfDigits digits
      then none else f (Decimal.natOfDigits digits) := by
  unfold count?
  split <;> rfl

theorem sizeTest?_eq (cs : List Char) :
    sizeTest? cs = (Text.after? "count(".toList cs).bind fun rest =>
      (argument? path? ')' rest).bind fun (field, rest) =>
        (compared? count? rest).bind fun (order, count) => some (.size field order count) := by
  simp only [sizeTest?, argument?, compared?, bind, Option.bind_assoc, Option.bind_some]
  simp only [count?_bind]

theorem pathTest?_eq (cs : List Char) :
    pathTest? cs = (path? cs).bind fun (field, rest) =>
      if rest.isEmpty then some (.present field)
      else (compared? (fun cs => whole? (literal? cs)) rest).bind fun (order, value) =>
        comparison? field order value := by
  simp only [pathTest?, compared?, bind, Option.bind_assoc, Option.bind_some]
  rfl

theorem reversedTest?_eq (cs : List Char) :
    reversedTest? cs = (literal? cs).bind fun (value, rest) =>
      (compared? (fun cs => whole? (path? cs)) rest).bind fun (order, field) =>
        comparison? field (flip order) value := by
  simp only [reversedTest?, compared?, bind, Option.bind_assoc, Option.bind_some]

theorem IsCount.starts {digits : List Char} {n : Nat} (h : IsCount digits n) :
    StartsExpression digits := by
  obtain ⟨hdigits, -⟩ := h
  obtain ⟨d, ds, rfl⟩ := List.exists_cons_of_ne_nil hdigits.ne_nil
  exact ⟨d, ds, rfl, not_isDelimiter_of_isDigit hdigits.head⟩

theorem isStatement_of_sizeTest? {cs : List Char} {c : Condition} (h : sizeTest? cs = some c) :
    IsStatement cs c := by
  rw [sizeTest?_eq] at h
  simp only [Option.bind_eq_some_iff, Text.after?_eq_some_iff] at h
  obtain ⟨rest, rfl, ⟨field, behind⟩, hfield, ⟨order, count⟩, hcount, he⟩ := h
  obtain rfl := Option.some.inj he
  obtain ⟨path, hpath, rfl⟩ := (reads_path.argument?_eq_some_iff (.inr rfl)).mp hfield
  obtain ⟨sign, digits, hsign, hdigits, rfl⟩ :=
    (compared?_eq_some_iff count?_eq_some_iff IsCount.starts).mp hcount
  exact .size hpath hsign hdigits

theorem sizeTest?_append {path sign digits : List Char} {field : String} {order : SizeOrder}
    {count : Nat} (hpath : Padded IsPath path field) (hsign : Padded IsSign sign order)
    (hcount : IsCount digits count) :
    sizeTest? ("count(".toList ++ (path ++ ')' :: (sign ++ digits))) =
      some (.size field order count) := by
  have hafter : Text.after? "count(".toList ("count(".toList ++ (path ++ ')' :: (sign ++ digits))) =
      some (path ++ ')' :: (sign ++ digits)) := Text.after?_eq_some_iff.mpr rfl
  have hfield : argument? path? ')' (path ++ ')' :: (sign ++ digits)) =
      some (field, sign ++ digits) :=
    (reads_path.argument?_eq_some_iff (.inr rfl)).mpr ⟨path, hpath, rfl⟩
  have hcompared : compared? count? (sign ++ digits) = some (order, count) :=
    (compared?_eq_some_iff count?_eq_some_iff IsCount.starts).mpr ⟨sign, digits, hsign, hcount, rfl⟩
  simp only [sizeTest?_eq, hafter, hfield, hcompared, Option.bind_some]

/-! ## Calls -/

theorem isStatement_of_containment? {cs : List Char} {c : Condition}
    (h : containment? cs = some c) : IsStatement cs c := by
  simp only [containment?, bind, Option.bind_eq_some_iff, Text.after?_eq_some_iff] at h
  obtain ⟨rest, rfl, ⟨field, value⟩, hargs, he⟩ := h
  obtain rfl := Option.some.inj he
  obtain ⟨path, literal, hpath, hliteral, rfl⟩ :=
    (reads_path.arguments?_eq_some_iff reads_literal).mp hargs
  exact .contains hpath hliteral

theorem containment?_append {path literal : List Char} {field : String} {value : Json}
    (hpath : Padded IsPath path field) (hliteral : Padded IsLiteral literal value) :
    containment? ("contains(".toList ++ (path ++ ',' :: (literal ++ [')']))) =
      some (.contains field value) := by
  have hafter : Text.after? "contains(".toList
      ("contains(".toList ++ (path ++ ',' :: (literal ++ [')']))) =
      some (path ++ ',' :: (literal ++ [')'])) := Text.after?_eq_some_iff.mpr rfl
  have hargs := (reads_path.arguments?_eq_some_iff reads_literal).mpr
    ⟨path, literal, hpath, hliteral, rfl⟩
  simp only [containment?, hafter, hargs, bind, Option.bind_some]
  rfl

theorem isStatement_of_patternTest? {cs : List Char} {c : Condition}
    (h : patternTest? cs = some c) : IsStatement cs c := by
  simp only [patternTest?, bind, Option.bind_eq_some_iff, Option.or_eq_some_iff,
    Text.after?_eq_some_iff] at h
  obtain ⟨rest, hcall, ⟨pattern, field⟩, hargs, he⟩ := h
  obtain rfl := Option.some.inj he
  obtain ⟨quoted, path, hpattern, hpath, rfl⟩ :=
    (reads_pattern.arguments?_eq_some_iff reads_path).mp hargs
  rcases hcall with rfl | ⟨-, rfl⟩
  · exact .pattern (by simp) hpattern hpath
  · exact .pattern (by simp) hpattern hpath

theorem patternTest?_append {call quoted path : List Char} {pattern field : String}
    (hcall : call ∈ ["re_match(".toList, "regex.match(".toList])
    (hpattern : Padded IsPattern quoted pattern) (hpath : Padded IsPath path field) :
    patternTest? (call ++ (quoted ++ ',' :: (path ++ [')']))) = some (.matches field pattern) := by
  have hafter (rest : List Char) : (Text.after? "re_match(".toList (call ++ rest)).or
      (Text.after? "regex.match(".toList (call ++ rest)) = some rest := by
    simp only [List.mem_cons, List.not_mem_nil, or_false] at hcall
    rcases hcall with rfl | rfl <;> rfl
  have hargs := (reads_pattern.arguments?_eq_some_iff reads_path).mpr
    ⟨quoted, path, hpattern, hpath, rfl⟩
  simp only [patternTest?, hafter, hargs, bind, Option.bind_some]
  rfl

/-! ## Comparisons -/

theorem isStatement_of_pathTest? {cs : List Char} {c : Condition} (h : pathTest? cs = some c) :
    IsStatement cs c := by
  rw [pathTest?_eq] at h
  obtain ⟨⟨field, rest⟩, hfield, htest⟩ := Option.bind_eq_some_iff.mp h
  obtain ⟨path, hpath, rfl⟩ := reads_path.sound hfield
  cases rest with
  | nil =>
      obtain rfl := Option.some.inj htest
      rw [List.append_nil]
      exact .present hpath
  | cons d ds =>
      obtain ⟨⟨order, value⟩, hcompared, hc⟩ := Option.bind_eq_some_iff.mp htest
      obtain ⟨sign, literal, hsign, hliteral, hrest⟩ :=
        (compared?_eq_some_iff reads_literal.whole?_eq_some_iff reads_literal.starts).mp hcompared
      rw [hrest]
      exact .compare hpath hsign hliteral (comparison?_eq_some_iff.mp hc)

theorem pathTest?_present {path : List Char} {field : String} (hpath : IsPath path field) :
    pathTest? path = some (.present field) := by
  have hread : path? path = some (field, []) := by
    simpa using reads_path.complete hpath .nil
  simp [pathTest?_eq, hread]

theorem pathTest?_append {path sign literal : List Char} {field : String} {order : SizeOrder}
    {value : Json} {c : Condition} (hpath : IsPath path field) (hsign : Padded IsSign sign order)
    (hliteral : IsLiteral literal value) (hc : Compares field order value c) :
    pathTest? (path ++ (sign ++ literal)) = some c := by
  have hread := reads_path.complete hpath (.sign_append hsign literal)
  have hcompared := (compared?_eq_some_iff reads_literal.whole?_eq_some_iff
    reads_literal.starts).mpr ⟨sign, literal, hsign, hliteral, rfl⟩
  have hne : ¬(sign ++ literal).isEmpty = true := by simp [sign_ne_nil hsign]
  simp only [pathTest?_eq, hread, Option.bind_some, if_neg hne, hcompared,
    comparison?_eq_some_iff.mpr hc]

theorem isStatement_of_reversedTest? {cs : List Char} {c : Condition}
    (h : reversedTest? cs = some c) : IsStatement cs c := by
  rw [reversedTest?_eq] at h
  simp only [Option.bind_eq_some_iff] at h
  obtain ⟨⟨value, rest⟩, hvalue, ⟨order, field⟩, hcompared, hc⟩ := h
  obtain ⟨literal, hliteral, rfl⟩ := reads_literal.sound hvalue
  obtain ⟨sign, path, hsign, hpath, rfl⟩ :=
    (compared?_eq_some_iff reads_path.whole?_eq_some_iff reads_path.starts).mp hcompared
  have hmirrored : Padded IsMirroredSign sign (flip order) :=
    hsign.map fun _ => isMirroredSign_flip.mpr
  exact .compareMirrored hliteral hmirrored hpath (comparison?_eq_some_iff.mp hc)

theorem reversedTest?_append {literal sign path : List Char} {value : Json} {order : SizeOrder}
    {field : String} {c : Condition} (hliteral : IsLiteral literal value)
    (hsign : Padded IsMirroredSign sign order) (hpath : IsPath path field)
    (hc : Compares field order value c) :
    reversedTest? (literal ++ (sign ++ path)) = some c := by
  have hsign' : Padded IsSign sign (flip order) := by
    refine hsign.map fun _ h => isMirroredSign_flip.mp ?_
    rwa [flip_flip]
  have hread := reads_literal.complete hliteral (.sign_append hsign' path)
  have hcompared := (compared?_eq_some_iff reads_path.whole?_eq_some_iff
    reads_path.starts).mpr ⟨sign, path, hsign', hpath, rfl⟩
  have hc' : comparison? field (flip (flip order)) value = some c := by
    rw [flip_flip]
    exact comparison?_eq_some_iff.mpr hc
  simp [reversedTest?_eq, hread, hcompared, hc']

/-! ## All statements -/

theorem after?_cons_of_ne {a c : Char} (h : a ≠ c) (start cs : List Char) :
    Text.after? (a :: start) (c :: cs) = none := by
  simp [Text.after?, h]

/-- A text that begins with a literal is at most a comparison of the literal with a path. -/
theorem condition?_literal {literal : List Char} {value : Json} (h : IsLiteral literal value)
    (rest : List Char) : condition? (literal ++ rest) = reversedTest? (literal ++ rest) := by
  -- the other forms begin with one of four letters, and of the literals only `null` does so too
  have hother {c : Char} (hc : c ∉ ['n', 'c', 'r', 'i']) (cs : List Char) :
      condition? (c :: cs) = reversedTest? (c :: cs) := by
    simp only [List.mem_cons, List.not_mem_nil, or_false, not_or] at hc
    obtain ⟨hn, hcount, hr, hi⟩ := hc
    simp [condition?, absence?, containment?, patternTest?, sizeTest?, pathTest?, path?,
      after?_cons_of_ne, Ne.symm hn, Ne.symm hcount, Ne.symm hr, Ne.symm hi]
  cases h with
  | text hq =>
      obtain ⟨cs, rfl⟩ := hq.exists_cons
      exact hother (by decide) _
  | number hn hx =>
      obtain ⟨c, cs, rfl, hc⟩ := hn.exists_cons
      refine hother ?_ _
      intro hmem
      simp only [List.mem_cons, List.not_mem_nil, or_false] at hmem
      rcases hmem with rfl | rfl | rfl | rfl
      all_goals exact absurd hc (by decide)
  | word h =>
      rcases mem_literalWords.mp h with ⟨rfl, -⟩ | ⟨rfl, -⟩ | ⟨rfl, -⟩
      · exact hother (by decide) _
      · exact hother (by decide) _
      · rfl

theorem condition?_path {path rest : List Char} {field : String} (h : IsPath path field)
    {c : Condition} (hc : pathTest? (path ++ rest) = some c) :
    condition? (path ++ rest) = some c := by
  have hfirst : condition? (path ++ rest) =
      (pathTest? (path ++ rest)).or (reversedTest? (path ++ rest)) := by
    obtain ⟨cs, _, -, -, rfl, -⟩ := exists_of_isPath h
    rfl
  rw [hfirst, hc, Option.some_or]

theorem condition?_call {call : List Char} (h : call ∈ ["re_match(".toList, "regex.match(".toList])
    {rest : List Char} {c : Condition} (hc : patternTest? (call ++ rest) = some c) :
    condition? (call ++ rest) = some c := by
  have hfront : absence? (call ++ rest) = none ∧ containment? (call ++ rest) = none := by
    simp only [List.mem_cons, List.not_mem_nil, or_false] at h
    rcases h with rfl | rfl
    · exact ⟨rfl, rfl⟩
    · exact ⟨rfl, rfl⟩
  rw [condition?, hfront.1, hfront.2, hc, Option.none_or, Option.none_or, Option.some_or]

theorem condition?_contains {rest : List Char} {c : Condition}
    (hc : containment? ("contains(".toList ++ rest) = some c) :
    condition? ("contains(".toList ++ rest) = some c := by
  have hfront : absence? ("contains(".toList ++ rest) = none := rfl
  rw [condition?, hfront, hc, Option.none_or, Option.some_or]

theorem condition?_count {rest : List Char} {c : Condition}
    (hc : sizeTest? ("count(".toList ++ rest) = some c) :
    condition? ("count(".toList ++ rest) = some c := by
  have hfront : condition? ("count(".toList ++ rest) = (sizeTest? ("count(".toList ++ rest)).or
      ((pathTest? ("count(".toList ++ rest)).or (reversedTest? ("count(".toList ++ rest))) := rfl
  rw [hfront, hc, Option.some_or]

theorem isStatement_of_condition? {cs : List Char} {c : Condition} (h : condition? cs = some c) :
    IsStatement cs c := by
  simp only [condition?, Option.or_eq_some_iff] at h
  rcases h with h | ⟨-, h | ⟨-, h | ⟨-, h | ⟨-, h | ⟨-, h⟩⟩⟩⟩⟩
  · exact isStatement_of_absence? h
  · exact isStatement_of_containment? h
  · exact isStatement_of_patternTest? h
  · exact isStatement_of_sizeTest? h
  · exact isStatement_of_pathTest? h
  · exact isStatement_of_reversedTest? h

theorem condition?_of_isStatement {cs : List Char} {c : Condition} (h : IsStatement cs c) :
    condition? cs = some c := by
  cases h with
  | absent hblanks hne hpath => rw [condition?, absence?_append hblanks hne hpath, Option.some_or]
  | present hpath =>
      have htest := pathTest?_present hpath
      rw [← List.append_nil cs] at htest ⊢
      exact condition?_path hpath htest
  | contains hpath hliteral => exact condition?_contains (containment?_append hpath hliteral)
  | pattern hcall hpattern hpath =>
      exact condition?_call hcall (patternTest?_append hcall hpattern hpath)
  | size hpath hsign hcount => exact condition?_count (sizeTest?_append hpath hsign hcount)
  | compare hpath hsign hliteral hc =>
      exact condition?_path hpath (pathTest?_append hpath hsign hliteral hc)
  | compareMirrored hliteral hsign hpath hc =>
      rw [condition?_literal hliteral, reversedTest?_append hliteral hsign hpath hc]

/-- The grammar gives a text at most one condition. -/
theorem IsStatement.unique {cs : List Char} {c d : Condition} (hc : IsStatement cs c)
    (hd : IsStatement cs d) : c = d :=
  Option.some.inj ((condition?_of_isStatement hc).symm.trans (condition?_of_isStatement hd))

/-- A text is understood exactly if it belongs to the grammar, and then as the grammar says. -/
theorem condition?_eq_some_iff (cs : List Char) (c : Condition) :
    condition? cs = some c ↔ IsStatement cs c :=
  ⟨isStatement_of_condition?, condition?_of_isStatement⟩

/-- Names in brackets are unescaped, and texts have no order. -/
example :
    condition? "true != input.changeRequest[\"a\\u0062\"]".toList =
        some (.differs "ab" (.bool true)) ∧
      condition? "input.a > \"1\"".toList = none := by
  refine ⟨?_, ?_⟩ <;> cbv

end Guardrail.Rego
