import Guardrail.Proofs.Condition.Tests
import Guardrail.Proofs.Rego.Statements

/-!
# Statements about a path

Every statement that is understood tests one path. Here the path stands beside the statement, so
that what is tested can be told from the text of the path.
-/

namespace Guardrail.Rego

/-- A statement about a path, and the test that it puts the path to. -/
inductive IsTest (path : List Char) : List Char → Test → Prop where
  | absent {blanks : List Char} (hblanks : IsBlanks blanks) (hne : blanks ≠ []) :
      IsTest path ("not".toList ++ (blanks ++ path)) .absent
  | present : IsTest path path .present
  | contains {argument literal : List Char} {value : Scalar} (hpath : Padded Eq argument path)
      (hliteral : Padded IsLiteral literal value.toJson) :
      IsTest path ("contains(".toList ++ (argument ++ ',' :: (literal ++ [')'])))
        (.contains value)
  | pattern {call quoted argument : List Char} {pattern : String}
      (hcall : call ∈ ["re_match(".toList, "regex.match(".toList])
      (hpattern : Padded IsPattern quoted pattern) (hpath : Padded Eq argument path) :
      IsTest path (call ++ (quoted ++ ',' :: (argument ++ [')']))) (.pattern pattern)
  | size {argument sign digits : List Char} {order : SizeOrder} {count : Nat}
      (hpath : Padded Eq argument path) (hsign : Padded IsSign sign order)
      (hcount : IsCount digits count) :
      IsTest path ("count(".toList ++ (argument ++ ')' :: (sign ++ digits))) (.size order count)
  | compare {sign literal : List Char} {order : SizeOrder} {value : Scalar} {t : Test}
      (hsign : Padded IsSign sign order) (hliteral : IsLiteral literal value.toJson)
      (ht : ∀ field, Compares field order value.toJson (t.on field)) :
      IsTest path (path ++ (sign ++ literal)) t
  | compareMirrored {literal sign : List Char} {order : SizeOrder} {value : Scalar} {t : Test}
      (hliteral : IsLiteral literal value.toJson) (hsign : Padded IsMirroredSign sign order)
      (ht : ∀ field, Compares field order value.toJson (t.on field)) :
      IsTest path (literal ++ (sign ++ path)) t

theorem IsTest.isStatement {path cs : List Char} {t : Test} (h : IsTest path cs t)
    {field : String} (hpath : IsPath path field) : IsStatement cs (t.on field) := by
  have hpadded {argument : List Char} (ha : Padded Eq argument path) :
      Padded IsPath argument field := by
    refine ha.map ?_
    rintro _ rfl
    exact hpath
  cases h with
  | absent hblanks hne => exact .absent hblanks hne hpath
  | present => exact .present hpath
  | contains ha hliteral => exact .contains (hpadded ha) hliteral
  | pattern hcall hpattern ha => exact .pattern hcall hpattern (hpadded ha)
  | size ha hsign hcount => exact .size (hpadded ha) hsign hcount
  | compare hsign hliteral ht => exact .compare hpath hsign hliteral (ht field)
  | compareMirrored hliteral hsign ht => exact .compareMirrored hliteral hsign hpath (ht field)

/-! ## Every statement is about a path -/

theorem IsLiteral.exists_scalar {cs : List Char} {v : Json} (h : IsLiteral cs v) :
    ∃ s : Scalar, v = s.toJson := by
  cases h with
  | @text s hs => exact ⟨.text s, rfl⟩
  | @number n x hn hx => exact ⟨.number x, rfl⟩
  | word h =>
      rcases mem_literalWords.mp h with ⟨-, rfl⟩ | ⟨-, rfl⟩ | ⟨-, rfl⟩
      · exact ⟨.bool true, rfl⟩
      · exact ⟨.bool false, rfl⟩
      · exact ⟨.null, rfl⟩

theorem Compares.exists_test {field : String} {order : SizeOrder} {s : Scalar} {c : Condition}
    (h : Compares field order s.toJson c) :
    ∃ t : Test, c = t.on field ∧ ∀ other, Compares other order s.toJson (t.on other) := by
  -- the rules speak of any value, of numbers only where they compare sizes
  generalize hv : s.toJson = v at h ⊢
  cases h with
  | equal =>
      subst hv
      exact ⟨.equal s, rfl, fun _ => .equal _⟩
  | unequal =>
      subst hv
      exact ⟨.unequal s, rfl, fun _ => .unequal _⟩
  | above n => exact ⟨.compares .above n.toFloat, rfl, fun _ => .above n⟩
  | atLeast n => exact ⟨.compares .atLeast n.toFloat, rfl, fun _ => .atLeast n⟩
  | below n => exact ⟨.compares .below n.toFloat, rfl, fun _ => .below n⟩
  | atMost n => exact ⟨.compares .atMost n.toFloat, rfl, fun _ => .atMost n⟩

theorem Padded.exists_eq {text : List Char} {field : String} (h : Padded IsPath text field) :
    ∃ path, IsPath path field ∧ Padded Eq text path := by
  obtain ⟨hbefore, hpath, hbehind⟩ := h
  exact ⟨_, hpath, .intro hbefore rfl hbehind⟩

/-- The statements that are understood are the tests of paths. -/
theorem isStatement_iff {cs : List Char} {c : Condition} :
    IsStatement cs c ↔
      ∃ path field t, IsPath path field ∧ IsTest path cs t ∧ c = t.on field := by
  constructor
  · intro h
    cases h with
    | absent hblanks hne hpath => exact ⟨_, _, _, hpath, .absent hblanks hne, rfl⟩
    | present hpath => exact ⟨_, _, _, hpath, .present, rfl⟩
    | contains hpath hliteral =>
        obtain ⟨path, hpath, ha⟩ := hpath.exists_eq
        obtain ⟨hbefore, hvalue, hbehind⟩ := hliteral
        obtain ⟨s, rfl⟩ := hvalue.exists_scalar
        exact ⟨path, _, _, hpath, .contains ha (.intro hbefore hvalue hbehind), rfl⟩
    | pattern hcall hpattern hpath =>
        obtain ⟨path, hpath, ha⟩ := hpath.exists_eq
        exact ⟨path, _, _, hpath, .pattern hcall hpattern ha, rfl⟩
    | size hpath hsign hcount =>
        obtain ⟨path, hpath, ha⟩ := hpath.exists_eq
        exact ⟨path, _, _, hpath, .size ha hsign hcount, rfl⟩
    | compare hpath hsign hliteral hc =>
        obtain ⟨s, rfl⟩ := hliteral.exists_scalar
        obtain ⟨t, rfl, ht⟩ := hc.exists_test
        exact ⟨_, _, t, hpath, .compare hsign hliteral ht, rfl⟩
    | compareMirrored hliteral hsign hpath hc =>
        obtain ⟨s, rfl⟩ := hliteral.exists_scalar
        obtain ⟨t, rfl, ht⟩ := hc.exists_test
        exact ⟨_, _, t, hpath, .compareMirrored hliteral hsign ht, rfl⟩
  · rintro ⟨path, field, t, hpath, ht, rfl⟩
    exact ht.isStatement hpath

/-! ## Numbers in statements -/

theorem IsLiteral.isProper {cs : List Char} {v : Json} (h : IsLiteral cs v) :
    ∀ n ∈ v.numbers, n.IsProper := by
  intro n hn
  cases h with
  | text => cases hn
  | @number k x hk hx =>
      cases x with
      | int a =>
          obtain rfl := List.mem_singleton.mp hn
          exact Number.Numeral.isWord_of_toNumber? hx
      | fraction x =>
          rw [Scalar.toJson, Json.ofFloat] at hn
          split at hn
          next hfinite =>
            obtain rfl := List.mem_singleton.mp hn
            exact hfinite
          next => cases hn
  | word h => rcases mem_literalWords.mp h with ⟨-, rfl⟩ | ⟨-, rfl⟩ | ⟨-, rfl⟩ <;> cases hn

theorem Compares.numbers_subset {field : String} {order : SizeOrder} {v : Json} {t : Test}
    (h : Compares field order v (t.on field)) : t.numbers ⊆ v.numbers := by
  cases t with
  | equal s | unequal s =>
      cases h
      exact List.Subset.refl _
  | contains s => cases h
  | _ => exact List.nil_subset _

/-- The number that a statement looks for is one that can be written down. -/
theorem IsTest.isProper {path cs : List Char} {t : Test} (h : IsTest path cs t) :
    ∀ n ∈ t.numbers, n.IsProper := by
  intro n hn
  cases h with
  | contains _ hliteral =>
      obtain ⟨-, hvalue, -⟩ := hliteral
      exact hvalue.isProper n hn
  | compare _ hliteral ht => exact hliteral.isProper n ((ht "").numbers_subset hn)
  | compareMirrored hliteral _ ht => exact hliteral.isProper n ((ht "").numbers_subset hn)
  | _ => cases hn

/-! ## Names in a path -/

/-- The names that a path goes through: a first segment `changeRequest` does not count if there are
others. -/
def pathNames : List String → List String
  | "changeRequest" :: s :: rest => s :: rest
  | names => names

theorem fieldName_eq (names : List String) :
    fieldName names = ".".intercalate (pathNames names) := by
  unfold pathNames
  split
  · rfl
  next hne =>
    unfold fieldName
    split
    · exact (hne _ _ rfl).elim
    · rfl

theorem pathNames_ne_nil {names : List String} (h : names ≠ []) : pathNames names ≠ [] := by
  unfold pathNames
  split
  · exact List.cons_ne_nil _ _
  · exact h

/-! ## Plain strings -/

/-- Characters that need no escape stand for themselves between quotes. -/
theorem IsQuoted.of_all (cs : List Char)
    (h : cs.all (fun c => c ≠ '"' && c ≠ '\\' && 0x20 ≤ c.toNat) = true) :
    IsQuoted ('"' :: (cs ++ ['"'])) (String.ofList cs) := by
  refine .intro ?_
  induction cs with
  | nil => exact .nil
  | cons c cs ih =>
      simp only [List.all_cons, Bool.and_eq_true, decide_eq_true_eq] at h
      obtain ⟨⟨⟨hquote, hslash⟩, hcontrol⟩, hcs⟩ := h
      exact .plain hquote hslash hcontrol (ih hcs)

end Guardrail.Rego
