import Guardrail.Engine.Embedded
import Guardrail.Proofs.Policy.Evaluation

/-!
# The embedded engine and policies

The embedded engine reports of a change what a policy with the same rules says of it: its violations
are the rules that did not pass, in their order, and the lists of the outcome count them by action.
-/

namespace Guardrail.Engine

/-- The result of the rule that a violation is about. -/
def Violation.result (v : Violation) : RuleResult :=
  ⟨v.ruleId, false, v.action, some v.message⟩

/-- A verdict and the outcome of a policy say the same of a change. -/
structure Verdict.Agrees (v : Verdict) (r : PolicyResult) : Prop where
  violations : v.violations.map Violation.result = r.rules.filter (!·.passed)
  denied : v.isDenied = r.denied
  approval : r.approvalRequired = true ↔ ∃ x ∈ v.violations, x.action = .requireApproval
  denials : r.denials.length = v.violations.countP (·.action = .deny)
  notifications : r.notifications.length = v.violations.countP (·.action = .notify)
  warnings : r.warnings.length =
    v.violations.countP fun x => x.action = .warn ∨ x.action = .requireApproval

namespace Embedded

variable (data : FlatRecord) (view : ResourceView)

/-! ## One rule -/

theorem result_toRule_of_violation {rule : Rego.LocalRule} {v : Violation}
    (h : violation? data view rule = some v) : rule.toRule.result data view = v.result := by
  simp only [violation?, Option.ite_none_right_eq_some, Option.some.injEq] at h
  obtain ⟨hc, rfl⟩ := h
  simp [Rule.result, Rego.LocalRule.toRule, Violation.result, hc]

theorem passed_of_no_violation {rule : Rego.LocalRule} (h : violation? data view rule = none) :
    rule.toRule.result data view = ⟨rule.id, true, rule.action, none⟩ := by
  have hc : ¬ rule.condition.holds data (some view) = true := by
    simpa [violation?] using h
  simp [Rule.result, Rego.LocalRule.toRule, hc]

/-! ## All rules -/

/-- What becomes of the rules when a policy has them. -/
def results (rules : List Rego.LocalRule) : List RuleResult :=
  rules.map fun rule => rule.toRule.result data view

theorem map_result_violations (rules : List Rego.LocalRule) :
    (rules.filterMap (violation? data view)).map Violation.result =
      (results data view rules).filter (!·.passed) := by
  induction rules with
  | nil => rfl
  | cons rule rules ih =>
      simp only [results, List.map_cons] at ih ⊢
      cases h : violation? data view rule with
      | none =>
          rw [List.filterMap_cons_none h, ih, passed_of_no_violation data view h]
          rfl
      | some v =>
          rw [List.filterMap_cons_some h, List.map_cons, ih,
            result_toRule_of_violation data view h]
          rfl

/-- A list of an outcome takes its texts from the violations, as a rule that passed gives none. -/
theorem filterMap_results (text? : RuleResult → Option String)
    (hp : ∀ id action, text? ⟨id, true, action, none⟩ = none) (rules : List Rego.LocalRule) :
    (results data view rules).filterMap text? =
      (rules.filterMap (violation? data view)).filterMap fun v => text? v.result := by
  induction rules with
  | nil => rfl
  | cons rule rules ih =>
      simp only [results, List.map_cons] at ih ⊢
      cases h : violation? data view rule with
      | none =>
          rw [List.filterMap_cons_none h, passed_of_no_violation data view h,
            List.filterMap_cons_none (hp _ _), ih]
      | some v =>
          rw [List.filterMap_cons_some h, result_toRule_of_violation data view h,
            List.filterMap_cons, List.filterMap_cons, ih]

theorem isSome_messageOf_result (action : Action) (v : Violation) :
    (v.result.messageOf action).isSome = decide (v.action = action) := by
  by_cases h : v.action = action <;> simp [RuleResult.messageOf, Violation.result, h]

theorem isSome_warning_result (v : Violation) :
    v.result.warning?.isSome = decide (v.action = .warn ∨ v.action = .requireApproval) := by
  cases h : v.action <;>
    simp [RuleResult.warning?, RuleResult.messageOf, Violation.result, h]

theorem length_messageOf_results (action : Action) (rules : List Rego.LocalRule) :
    ((results data view rules).filterMap (RuleResult.messageOf action)).length =
      (rules.filterMap (violation? data view)).countP (·.action = action) := by
  rw [filterMap_results data view _ (by simp [RuleResult.messageOf]),
    List.length_filterMap_eq_countP]
  simp only [isSome_messageOf_result]

theorem length_warning_results (rules : List Rego.LocalRule) :
    ((results data view rules).filterMap RuleResult.warning?).length =
      (rules.filterMap (violation? data view)).countP
        fun v => v.action = .warn ∨ v.action = .requireApproval := by
  rw [filterMap_results data view _ (by simp [RuleResult.warning?, RuleResult.messageOf]),
    List.length_filterMap_eq_countP]
  simp only [isSome_warning_result]

/-- A rule with some action has a message exactly if a violation has that action. -/
theorem messageOf_results_ne_nil (action : Action) (rules : List Rego.LocalRule) :
    (results data view rules).filterMap (RuleResult.messageOf action) ≠ [] ↔
      ∃ v ∈ rules.filterMap (violation? data view), v.action = action := by
  rw [← List.length_pos_iff, length_messageOf_results, List.countP_pos_iff]
  simp only [decide_eq_true_eq]

/-- The embedded engine agrees with a policy that has its rules and is switched on. -/
theorem evaluate_agrees (rules : List Rego.LocalRule) (request : Request)
    (id name description : String) :
    ((Embedded.mk rules).evaluate request.change).Agrees
      (Policy.evaluate
        { id, name, description, enabled := true, rules := rules.map Rego.LocalRule.toRule }
        FlatRecord.defaultLevels request.change) := by
  let data := FlatRecord.ofJson FlatRecord.defaultLevels request.change
  let view := ResourceView.ofRecord request.change
  have hr : Policy.results ⟨id, name, description, true, rules.map Rego.LocalRule.toRule⟩
      FlatRecord.defaultLevels request.change = results data view rules :=
    List.map_map
  have hdeny := messageOf_results_ne_nil data view .deny rules
  have happroval := messageOf_results_ne_nil data view .requireApproval rules
  rw [Policy.evaluate_of_enabled rfl, hr]
  refine
    { violations := map_result_violations data view rules
      denied := ?_
      approval := ?_
      denials := length_messageOf_results data view .deny rules
      notifications := length_messageOf_results data view .notify rules
      warnings := length_warning_results data view rules }
  · rw [Bool.eq_iff_iff, Bool.not_eq_true', List.isEmpty_eq_false_iff, hdeny]
    simp only [Verdict.isDenied, List.any_eq_true, Action.isBlocking, decide_eq_true_eq]
    rfl
  · rw [Bool.not_eq_true', List.isEmpty_eq_false_iff, happroval]
    rfl

end Embedded

end Guardrail.Engine
