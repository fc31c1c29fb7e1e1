import Guardrail.Proofs.Policy.Evaluation
import Mathlib.Data.List.Forall2

/-!
# Routing

A policy that is switched on leaves one entry for each of its rules. The entries say what stands in
the lists of the outcome and what the verdict is; the order of the rules shows in the order of the
lists and nowhere else.
-/

namespace Guardrail

/-! ## Entries -/

/-- An entry says whether the condition of a rule holds, and gives the message if it does. -/
structure Rule.IsEntered (data : FlatRecord) (view : ResourceView) (rule : Rule)
    (entry : RuleResult) : Prop where
  ruleId : entry.ruleId = rule.id
  action : entry.action = rule.action
  passed_iff : entry.passed = true ∧ entry.message? = none ↔
    rule.condition.holds data (some view) = false
  failed_iff : entry.passed = false ∧ entry.message? = some (Message.render rule.message data) ↔
    rule.condition.holds data (some view) = true

theorem Rule.isEntered_result (data : FlatRecord) (view : ResourceView) (rule : Rule) :
    rule.IsEntered data view (rule.result data view) := by
  cases h : rule.condition.holds data (some view) with
  | true =>
      have hresult : rule.result data view =
          ⟨rule.id, false, rule.action, some (Message.render rule.message data)⟩ := by
        rw [result, if_pos h]
      rw [hresult]
      exact ⟨rfl, rfl, by simp [h], by simp [h]⟩
  | false =>
      have hresult : rule.result data view = ⟨rule.id, true, rule.action, none⟩ := by
        rw [result, if_neg (Bool.eq_false_iff.mp h)]
      rw [hresult]
      exact ⟨rfl, rfl, by simp [h], by simp [h]⟩

namespace RuleResult

/-- The message of a rule that failed with a certain action. -/
def failure? (action : Action) (entry : RuleResult) : Option String :=
  if entry.passed = false ∧ entry.action = action then entry.message? else none

theorem failure?_result (action : Action) (data : FlatRecord) (view : ResourceView) (rule : Rule) :
    (rule.result data view).failure? action = (rule.result data view).messageOf action := by
  unfold Rule.result
  split
  · simp [failure?, messageOf]
  · simp [failure?, messageOf]

theorem isSome_failure?_result (action : Action) (data : FlatRecord) (view : ResourceView)
    (rule : Rule) :
    ((rule.result data view).failure? action).isSome ↔
      (rule.result data view).passed = false ∧ (rule.result data view).action = action := by
  unfold Rule.result
  split
  · simp [failure?]
  · simp [failure?]

end RuleResult

/-! ## Outcomes -/

namespace PolicyResult

/-- The lists and the verdict of an outcome follow its entries. -/
structure FollowsEntries (r : PolicyResult) : Prop where
  denials : r.denials = r.rules.filterMap (RuleResult.failure? .deny)
  notifications : r.notifications = r.rules.filterMap (RuleResult.failure? .notify)
  /-- Warnings and questions for approval stand together, in the order of the rules. -/
  warnings : r.warnings = r.rules.filterMap fun entry =>
    (entry.failure? .warn).or
      ((entry.failure? .requireApproval).map ("Approval required: " ++ ·))
  approvalRequired_iff : r.approvalRequired = true ↔
    ∃ entry ∈ r.rules, entry.passed = false ∧ entry.action = .requireApproval
  denied_iff : r.denied = true ↔ ∃ entry ∈ r.rules, entry.passed = false ∧ entry.action = .deny
  allowed : r.allowed = !r.denied

/-- Nothing is said of any rule. -/
structure IsSilent (r : PolicyResult) : Prop where
  rules : r.rules = []
  warnings : r.warnings = []
  denials : r.denials = []
  notifications : r.notifications = []
  allowed : r.allowed = true
  denied : r.denied = false
  approvalRequired : r.approvalRequired = false

/-- Two outcomes that differ in the order of their lists at most. -/
structure Reorders (r s : PolicyResult) : Prop where
  policyId : r.policyId = s.policyId
  policyName : r.policyName = s.policyName
  allowed : r.allowed = s.allowed
  denied : r.denied = s.denied
  approvalRequired : r.approvalRequired = s.approvalRequired
  rules : r.rules.Perm s.rules
  warnings : r.warnings.Perm s.warnings
  denials : r.denials.Perm s.denials
  notifications : r.notifications.Perm s.notifications

theorem Reorders.refl (r : PolicyResult) : r.Reorders r :=
  ⟨rfl, rfl, rfl, rfl, rfl, .refl _, .refl _, .refl _, .refl _⟩

end PolicyResult

namespace Policy

variable {p : Policy} {levels : Nat} {record : Json}

theorem filterMap_failure?_results (p : Policy) (levels : Nat) (record : Json) (action : Action) :
    (p.results levels record).filterMap (RuleResult.failure? action) =
      (p.results levels record).filterMap (RuleResult.messageOf action) := by
  rw [results, List.filterMap_map, List.filterMap_map]
  exact List.filterMap_congr fun rule _ => RuleResult.failure?_result action _ _ rule

theorem filterMap_failure?_results_ne_nil (p : Policy) (levels : Nat) (record : Json)
    (action : Action) :
    (p.results levels record).filterMap (RuleResult.failure? action) ≠ [] ↔
      ∃ entry ∈ p.results levels record, entry.passed = false ∧ entry.action = action := by
  simp [results, List.filterMap_eq_nil_iff, ← Option.isSome_iff_ne_none,
    RuleResult.isSome_failure?_result]

theorem followsEntries_evaluate (h : p.enabled = true) :
    (p.evaluate levels record).FollowsEntries := by
  rw [evaluate_of_enabled h]
  have hfailed (action : Action) :
      (!((p.results levels record).filterMap (RuleResult.messageOf action)).isEmpty) = true ↔
        ∃ entry ∈ p.results levels record, entry.passed = false ∧ entry.action = action := by
    rw [← filterMap_failure?_results_ne_nil, filterMap_failure?_results]
    simp
  exact
    { denials := (filterMap_failure?_results p levels record .deny).symm
      notifications := (filterMap_failure?_results p levels record .notify).symm
      warnings := by
        simp only [results, List.filterMap_map]
        refine List.filterMap_congr fun rule _ => ?_
        simp only [Function.comp_apply, RuleResult.warning?, RuleResult.failure?_result]
        rfl
      approvalRequired_iff := hfailed .requireApproval
      denied_iff := hfailed .deny
      allowed := (Bool.not_not _).symm }

theorem isSilent_evaluate (h : p.enabled = false) : (p.evaluate levels record).IsSilent := by
  rw [evaluate, if_neg (Bool.eq_false_iff.mp h)]
  exact ⟨rfl, rfl, rfl, rfl, rfl, rfl, rfl⟩

theorem results_perm {rules : List Rule} (h : rules.Perm p.rules) (levels : Nat) (record : Json) :
    (results { p with rules } levels record).Perm (p.results levels record) :=
  h.map _

theorem reorders_evaluate {rules : List Rule} (h : rules.Perm p.rules) (levels : Nat)
    (record : Json) :
    (evaluate { p with rules } levels record).Reorders (p.evaluate levels record) := by
  by_cases henabled : p.enabled = true
  · have hperm := results_perm h levels record
    have hpick (pick : RuleResult → Option String) := hperm.filterMap pick
    rw [evaluate_of_enabled henabled, evaluate_of_enabled (p := { p with rules }) henabled]
    exact
      { policyId := rfl
        policyName := rfl
        allowed := (hpick _).isEmpty_eq
        denied := congrArg not (hpick _).isEmpty_eq
        approvalRequired := congrArg not (hpick _).isEmpty_eq
        rules := hperm
        warnings := hpick _
        denials := hpick _
        notifications := hpick _ }
  · have hsame : evaluate { p with rules } levels record = p.evaluate levels record := by
      simp only [evaluate, henabled, Bool.false_eq_true, if_false]
      rfl
    rw [hsame]
    exact .refl _

/-- A policy that is switched on enters each rule once, and its lists and verdict follow the
entries; one that is switched off says nothing. The order of the rules is that of the lists. -/
theorem enters_every_rule (p : Policy) (levels : Nat) (record : Json) :
    let data := FlatRecord.ofJson levels record
    let view := ResourceView.ofRecord record
    let outcome := p.evaluate levels record
    (p.enabled = true →
      List.Forall₂ (Rule.IsEntered data view) p.rules outcome.rules ∧ outcome.FollowsEntries) ∧
    (p.enabled = false → outcome.IsSilent) ∧
    ∀ rules, rules.Perm p.rules →
      (evaluate { p with rules } levels record).Reorders outcome := by
  intro data view outcome
  refine ⟨fun h => ⟨?_, followsEntries_evaluate h⟩, isSilent_evaluate,
    fun rules hperm => reorders_evaluate hperm levels record⟩
  have hrules : outcome.rules = p.results levels record :=
    congrArg PolicyResult.rules (evaluate_of_enabled h levels record)
  rw [hrules, results, List.forall₂_map_right_iff]
  exact List.forall₂_same.mpr fun rule _ => rule.isEntered_result data view

/-- The condition of the deny rule does not hold, so the change is allowed beside a warning and a
question, whose order is that of the rules. -/
theorem enters_beside_passing_rule :
    let owner : Rule := .new "owner" (.absent "owner") .requireApproval "no owner"
    let exposed : Rule := .new "exposed" (.equals "public" (.bool true)) .deny "public"
    let size : Rule := .new "size" (.present "size") .warn "size {{size}} of {{owner}}"
    let p := new "bucket" "Bucket" [owner, exposed, size]
    let off := { p with enabled := false }
    let swapped := { p with rules := [size, exposed, owner] }
    let record := Json.object [("public", .bool false), ("size", .number (.int 3))]
    let outcome := p.evaluate FlatRecord.defaultLevels record
    p.enabled = true ∧ outcome.rules.length = 3 ∧ outcome.allowed = true ∧
      outcome.warnings = ["Approval required: no owner", "size 3 of <owner>"] ∧
      off.enabled = false ∧ (off.evaluate FlatRecord.defaultLevels record).rules = [] ∧
      swapped.rules.Perm p.rules ∧
      (swapped.evaluate FlatRecord.defaultLevels record).warnings.Perm outcome.warnings := by
  intro owner exposed size p off swapped record outcome
  obtain ⟨hon, -, horder⟩ := enters_every_rule p FlatRecord.defaultLevels record
  obtain ⟨-, hoff, -⟩ := enters_every_rule off FlatRecord.defaultLevels record
  obtain ⟨hentries, hfollows⟩ := hon rfl
  have hdenied : ¬ outcome.denied = true := by
    rw [hfollows.denied_iff]
    decide +kernel
  have hallowed : outcome.allowed = true := hfollows.allowed.trans (by simpa using hdenied)
  have hperm : swapped.rules.Perm p.rules := List.reverse_perm [owner, exposed, size]
  exact ⟨rfl, hentries.length_eq.symm, hallowed, hfollows.warnings.trans (by decide +kernel), rfl,
    (hoff rfl).rules, hperm, (horder swapped.rules hperm).warnings⟩

end Policy

end Guardrail
