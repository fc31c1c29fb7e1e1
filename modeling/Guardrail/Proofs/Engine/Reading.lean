import Guardrail.Engine.Embedded
import Guardrail.Proofs.Record.Segments
import Guardrail.Proofs.Rego.Denial
import Guardrail.Proofs.Rego.PathTests

/-!
# Reading a record through policy text

The engine of a policy with one statement about a path puts what it finds at the path to the test
that the statement states.
-/

namespace Guardrail

/-- The numbers of a value that is met inside another are numbers of that one. -/
theorem Json.numbers_subset_of_follow {names : List String} {x y : Json}
    (h : x.follow names = some y) : y.numbers ⊆ x.numbers := by
  induction names generalizing x with
  | nil =>
      obtain rfl := Option.some.inj h
      exact List.Subset.refl _
  | cons name names ih =>
      obtain ⟨z, hz, hy⟩ := Option.bind_eq_some_iff.mp h
      intro n hn
      exact mem_numbers_of_mem_children (mem_children_of_child? hz) (ih hy hn)

namespace Engine.Embedded

open Rego

/-- An engine with one rule reports the violation of that rule and no other. -/
theorem evaluate_ofText {text : String} {rule : LocalRule} (h : Rego.rules text = [rule])
    (record : Json) :
    (ofText text).evaluate record =
      .ofViolations (violation? (FlatRecord.ofJson FlatRecord.defaultLevels record)
        (ResourceView.ofRecord record) rule).toList := by
  rw [ofText, load, h, evaluate]
  rfl

/-- The violation that the policy with one statement reports. -/
def denialViolation (package : List Char) (c : Condition) (record : Json) : Violation :=
  let rule := denialOf package c
  { ruleId := rule.id
    message := Message.render rule.message (FlatRecord.ofJson FlatRecord.defaultLevels record)
    severity := .critical
    action := .deny
    package := String.ofList package }

theorem violations_denial {package statement : List Char} {c : Condition}
    (hpackage : (dottedName package).all isName = true) (h : IsStatement statement c)
    (hbreak : '\n' ∉ statement) (record : Json) :
    ((ofText (denial package statement)).evaluate record).violations =
      if c.holds (FlatRecord.ofJson FlatRecord.defaultLevels record)
        (some (ResourceView.ofRecord record)) then [denialViolation package c record] else [] := by
  rw [evaluate_ofText (rules_denial hpackage h hbreak) record, violation?]
  change (if c.holds _ _ = true then _ else none : Option Violation).toList = _
  split <;> rfl

/-- The policy denies a record if the value at the path passes the test. A test that takes one
number for another is passed instead where it should fail. -/
theorem violations_denial_ne_nil_iff {package cs statement : List Char} {names : List String}
    {t : Test} {record : Json} (hpackage : (dottedName package).all isName = true)
    (hnames : IsSegments cs names) (hne : names ≠ [])
    (ht : IsTest ("input".toList ++ cs) statement t) (hbreak : '\n' ∉ statement)
    (hproper : ∀ n ∈ record.numbers, n.IsProper) {value? : Option Json}
    (hvalue : record.follow (pathNames names) = value?)
    (hfield : (FlatRecord.ofJson FlatRecord.defaultLevels record).get? (fieldName names) = value?) :
    ((ofText (denial package statement)).evaluate record).violations ≠ [] ↔
      (t.Holds value? ↔ ¬t.Mistakes value?) := by
  have hpath : IsPath ("input".toList ++ cs) (fieldName names) := isPath_append hnames hne
  have hfound (x : Json)
      (hx : (FlatRecord.ofJson FlatRecord.defaultLevels record).get? (fieldName names) = some x) :
      ∀ n ∈ x.numbers, n.IsProper := by
    intro n hn
    rw [hfield, ← hvalue] at hx
    exact hproper n (Json.numbers_subset_of_follow hx hn)
  have hholds : (t.on (fieldName names)).holds
      (FlatRecord.ofJson FlatRecord.defaultLevels record) (some (ResourceView.ofRecord record)) =
        true ↔ _ := Test.holds_on_iff ht.isProper hfound
  rw [violations_denial hpackage (ht.isStatement hpath) hbreak record, ← hfield, ← hholds]
  split
  next hc => simp [hc]
  next hc => simp [hc]

/-- Statements about paths are tests of what is found there: the engine of a policy with one of
them, on one line, reports one violation if the value at the path passes the test, and none
otherwise. The one exception is a test that takes one number for another: the answer is then the
opposite one, and one of the numbers is an integer of more than 53 bits. -/
theorem evaluate_denial {package cs statement : List Char} {names : List String} {t : Test}
    {record : Json} (hpackage : (dottedName package).all isName = true)
    (hnames : IsSegments cs names) (hne : names ≠ [])
    (hplain : ∀ name ∈ pathNames names, '.' ∉ name.toList)
    (hlevels : (pathNames names).length ≤ 20)
    (ht : IsTest ("input".toList ++ cs) statement t) (hbreak : '\n' ∉ statement)
    (hordered : record.isOrdered = true) (hrecord : record.hasPlainNames = true)
    (hproper : ∀ n ∈ record.numbers, n.IsProper) :
    let verdict := (ofText (denial package statement)).evaluate record
    let value? := record.follow (pathNames names)
    (verdict.violations ≠ [] → ∃ v, verdict.violations = [v] ∧
      v.package = String.ofList package ∧ v.severity = .critical ∧ v.action = .deny) ∧
    (¬t.Mistakes value? → (verdict.violations ≠ [] ↔ t.Holds value?)) ∧
    (t.Mistakes value? → (verdict.violations ≠ [] ↔ ¬t.Holds value?) ∧
      ∃ a : Int, 2 ^ 53 < a.natAbs ∧ (.int a ∈ record.numbers ∨ .int a ∈ t.numbers)) ∧
    (value? = none →
      (verdict.violations ≠ [] ↔ (∃ v, t = .unequal v) ∨ t = .absent)) ∧
    (value? = some .null →
      (t = .present → verdict.violations = []) ∧ (t = .absent → verdict.violations ≠ [])) := by
  intro verdict value?
  have hfield : (FlatRecord.ofJson FlatRecord.defaultLevels record).get? (fieldName names) =
      value? := by
    -- the record's table is asked for the joined path, the record itself for one name at a time
    rw [fieldName_eq]
    exact FlatRecord.get?_intercalate hordered hrecord (pathNames_ne_nil hne) hplain hlevels
  have hdenied : verdict.violations ≠ [] ↔ (t.Holds value? ↔ ¬t.Mistakes value?) :=
    violations_denial_ne_nil_iff hpackage hnames hne ht hbreak hproper rfl hfield
  refine ⟨fun hviolated => ?_, fun hmistakes => ?_, fun hmistakes => ⟨?_, ?_⟩, fun hv => ?_,
    fun hv => ⟨?_, ?_⟩⟩
  · have hviolations := violations_denial hpackage
      (ht.isStatement (isPath_append hnames hne)) hbreak record
    split at hviolations
    next => exact ⟨_, hviolations, rfl, rfl, rfl⟩
    next => exact (hviolated hviolations).elim
  · simp only [hdenied, hmistakes, not_false_eq_true, iff_true]
  · simp only [hdenied, hmistakes, not_true_eq_false, iff_false]
  · obtain ⟨x, hx, a, hlong, ha⟩ := hmistakes.exists_long
    exact ⟨a, hlong, ha.imp_left fun ha => Json.numbers_subset_of_follow hx ha⟩
  · rw [hdenied, hv, Test.holds_none_iff]
    exact iff_true_right Test.not_mistakes_none
  · rintro rfl
    by_contra hviolated
    have := hdenied.mp hviolated
    simp [hv, Test.Holds, Test.Mistakes] at this
  · rintro rfl
    simp [hdenied, hv, Test.Holds, Test.Mistakes]

theorem padded_spaces {α : Type} {language : List Char → α → Prop} {cs : List Char} {a : α}
    (h : language cs a) : Padded language (' ' :: (cs ++ [' '])) a := by
  have hblank : IsBlanks [' '] := by simp [IsBlanks, Text.isBlank]
  exact .intro hblank h hblank

theorem isLiteral_numeral :
    IsLiteral "9007199254740992".toList (Scalar.number (.int (2 ^ 53))).toJson := by
  have hnumeral :
      Number.Numeral.ofChars? "9007199254740992".toList =
        some ⟨false, "9007199254740992".toList, none, none⟩ := by decide
  exact .number (Number.ofChars?_eq_some_iff.mp hnumeral) (by decide)

/-- A path of a name, a quoted name and an index. -/
theorem evaluate_denial_quoted :
    let cs := ".changeRequest".toList ++ ("[\"ids\"]".toList ++ ("[1]".toList ++ []))
    let names := ["changeRequest", "ids", "1"]
    let statement := "input".toList ++ cs ++ (" != ".toList ++ "9007199254740992".toList)
    let record (id : Int) : Json := .object [("ids", .array [.null, .ofInt id])]
    let violations (id : Int) : List Violation :=
      ((ofText (denial "app.net".toList statement)).evaluate (record id)).violations
    IsSegments cs names ∧
      IsTest ("input".toList ++ cs) statement (.unequal (.number (.int (2 ^ 53)))) ∧
      (∀ id, (record id).isOrdered = true ∧ (record id).hasPlainNames = true) ∧
      (∃ v, violations 7 = [v]) ∧ violations (2 ^ 53) = [] ∧ violations (2 ^ 53 + 1) = [] := by
  intro cs names statement record violations
  have hnames : IsSegments cs names := by
    have hname : IsSegment ".changeRequest".toList "changeRequest" :=
      .name (by decide) (List.all_eq_true.mp (by decide))
    have htext : IsSegment "[\"ids\"]".toList "ids" :=
      .text (.of_all "ids".toList (by decide))
    have hindex : IsSegment "[1]".toList "1" :=
      @IsSegment.index ['1'] (by decide) (List.all_eq_true.mp (by decide))
    exact .cons hname (.cons htext (.cons hindex .nil))
  have ht : IsTest ("input".toList ++ cs) statement (.unequal (.number (.int (2 ^ 53)))) := by
    have hsign : Padded IsSign " != ".toList .unequal :=
      padded_spaces (isSign_iff.mpr (.inr (.inl ⟨rfl, rfl⟩)))
    exact .compare hsign isLiteral_numeral fun _ => .unequal _
  have hpackage : (dottedName "app.net".toList).all isName = true := by decide
  have hbreak : '\n' ∉ statement := by decide
  have hrecord (id : Int) : (record id).isOrdered = true ∧ (record id).hasPlainNames = true := by
    change (record 0).isOrdered = true ∧ (record 0).hasPlainNames = true
    decide
  have hdenial (id : Int) (hid : Decimal.IsWord id) :=
    evaluate_denial hpackage hnames (by decide) (by decide) (by decide) ht hbreak (hrecord id).1
      (hrecord id).2 fun n hn => by
        obtain rfl : n = .int id := List.mem_singleton.mp hn
        exact hid
  have hholds (id : Int) (hid : id ≠ 2 ^ 53) :
      (Test.unequal (.number (.int (2 ^ 53)))).Holds ((record id).follow (pathNames names)) := by
    rintro x hx h
    obtain rfl : Json.ofInt id = x := Option.some.inj hx
    exact hid (Int.cast_injective (Option.some.inj h))
  have hshort (id : Int) (hid : id.natAbs ≤ 2 ^ 53) :
      ¬(Test.unequal (.number (.int (2 ^ 53)))).Mistakes
        ((record id).follow (pathNames names)) := by
    rintro ⟨x, hx, h⟩
    obtain rfl : Json.ofInt id = x := Option.some.inj hx
    obtain ⟨a, ha, hlong⟩ := Number.MistakenFor.exists_long h
    rcases ha with ha | ha <;> cases ha <;> omega
  refine ⟨hnames, ht, hrecord, ?_, ?_, ?_⟩
  · obtain ⟨hone, hexact, -⟩ := hdenial 7 ⟨by decide, by decide⟩
    obtain ⟨v, hv, -⟩ := hone ((hexact (hshort 7 (by decide))).mpr (hholds 7 (by decide)))
    exact ⟨v, hv⟩
  · obtain ⟨-, hexact, -⟩ := hdenial (2 ^ 53) ⟨by decide, by decide⟩
    by_contra hviolated
    exact (hexact (hshort (2 ^ 53) (by decide))).mp hviolated _ rfl rfl
  · obtain ⟨-, -, hmistaken, -⟩ := hdenial (2 ^ 53 + 1) ⟨by decide, by decide⟩
    by_contra hviolated
    exact (hmistaken ⟨_, rfl, Number.mistakenFor_pred⟩).1.mp hviolated
      (hholds (2 ^ 53 + 1) (by decide))

/-- An account number is denied for being that of another account. -/
theorem denied_of_successor :
    let statement := "input.account == 9007199254740992".toList
    let t := Test.equal (.number (.int (2 ^ 53)))
    let record : Json := .object [("account", .ofInt (2 ^ 53 + 1))]
    IsTest "input.account".toList statement t ∧
      record.isOrdered = true ∧ record.hasPlainNames = true ∧
      (∀ n ∈ record.numbers, n.IsProper) ∧
      ¬t.Holds (record.follow ["account"]) ∧
      ((ofText (denial "infra".toList statement)).evaluate record).violations ≠ [] := by
  intro statement t record
  have hnames : IsSegments (".account".toList ++ []) ["account"] :=
    .cons (.name (by decide) (List.all_eq_true.mp (by decide))) .nil
  have ht : IsTest ("input".toList ++ ".account".toList) statement t := by
    have hsign : Padded IsSign " == ".toList .equal :=
      padded_spaces (isSign_iff.mpr (.inl ⟨rfl, rfl⟩))
    exact .compare hsign isLiteral_numeral fun _ => .equal _
  have hproper : ∀ n ∈ record.numbers, n.IsProper := by
    intro n hn
    obtain rfl : n = .int (2 ^ 53 + 1) := List.mem_singleton.mp hn
    exact ⟨by decide, by decide⟩
  have hholds : ¬t.Holds (record.follow ["account"]) := by
    rintro ⟨x, hx, h⟩
    obtain rfl : Json.ofInt (2 ^ 53 + 1) = x := Option.some.inj hx
    exact absurd (Int.cast_injective (Option.some.inj h) : (2 ^ 53 + 1 : Int) = 2 ^ 53) (by decide)
  refine ⟨ht, by decide, by decide, hproper, hholds, ?_⟩
  refine (violations_denial_ne_nil_iff (by decide) hnames (by decide) ht (by decide) hproper rfl
    (by rfl)).mpr ?_
  have hmistaken : t.Mistakes (record.follow ["account"]) := ⟨_, rfl, Number.mistakenFor_pred⟩
  exact iff_of_false hholds (not_not_intro hmistaken)

end Engine.Embedded

end Guardrail
