import Guardrail.Approval.Request
import Guardrail.Proofs.Lists
import Guardrail.Proofs.Policy.Evaluation
import Mathlib.Data.List.Basic

/-!
# Reasons of approval requests

The reasons are read off the warnings of an outcome: every message of a rule that asks for approval
is one. A warning of another rule is taken for one too if its text begins with the mark.
-/

namespace Guardrail

/-! ## What a rule contributes -/

namespace Rule

/-- The message of a rule that has a certain action and whose condition holds. -/
def messageFor? (action : Action) (data : FlatRecord) (view : ResourceView) (rule : Rule) :
    Option String :=
  if rule.action = action ∧ rule.condition.holds data (some view) = true then
    some (Message.render rule.message data)
  else none

/-- The reason that a rule contributes to a request: its message if it asks for approval, and what
stands behind the mark if it warns with one. -/
def reason? (data : FlatRecord) (view : ResourceView) (rule : Rule) : Option String :=
  (rule.messageFor? .requireApproval data view).or
    ((rule.messageFor? .warn data view).bind ApprovalRequest.reason?)

theorem messageOf_result (action : Action) (data : FlatRecord) (view : ResourceView)
    (rule : Rule) :
    (rule.result data view).messageOf action = rule.messageFor? action data view := by
  unfold result RuleResult.messageOf messageFor?
  by_cases ha : rule.action = action
  · by_cases hc : rule.condition.holds data (some view) = true
    · simp [ha, hc]
    · simp [hc]
  · by_cases hc : rule.condition.holds data (some view) = true
    · simp [ha, hc]
    · simp [ha, hc]

/-- A rule has one action. -/
theorem messageFor?_eq_none_of_some {a b : Action} (hne : a ≠ b) {data : FlatRecord}
    {view : ResourceView} {rule : Rule} {text : String}
    (h : rule.messageFor? a data view = some text) : rule.messageFor? b data view = none := by
  have ha : rule.action = a := by
    by_cases hc : rule.action = a ∧ rule.condition.holds data (some view) = true
    · exact hc.1
    · rw [messageFor?, if_neg hc] at h
      exact absurd h (Option.some_ne_none text).symm
  have hb : ¬(rule.action = b ∧ rule.condition.holds data (some view) = true) := by
    rintro ⟨hb, -⟩
    exact hne (ha.symm.trans hb)
  rw [messageFor?, if_neg hb]

end Rule

namespace ApprovalRequest

/-! ## Marked warnings -/

theorem reason?_mark (text : String) : reason? (PolicyResult.approvalMark ++ text) = some text := by
  have hafter : Text.after? PolicyResult.approvalMark.toList
      (PolicyResult.approvalMark ++ text).toList = some text.toList := by
    rw [Text.after?_eq_some_iff, String.toList_append]
  rw [reason?, hafter, Option.map_some, String.ofList_toList]

theorem reason?_eq_none_iff {text : String} :
    reason? text = none ↔ ¬ PolicyResult.approvalMark.toList <+: text.toList := by
  rw [reason?, Option.map_eq_none_iff, Option.eq_none_iff_forall_ne_some]
  constructor
  · rintro h ⟨rest, hr⟩
    exact h rest (Text.after?_eq_some_iff.mpr hr.symm)
  · intro h rest hr
    exact h ⟨rest, (Text.after?_eq_some_iff.mp hr).symm⟩

/-- The warning of a rule is read as its reason. -/
theorem bind_warning_result (data : FlatRecord) (view : ResourceView) (rule : Rule) :
    (rule.result data view).warning?.bind reason? = rule.reason? data view := by
  rw [RuleResult.warning?, rule.messageOf_result, rule.messageOf_result, Rule.reason?]
  cases hw : rule.messageFor? .warn data view with
  | none =>
      cases rule.messageFor? .requireApproval data view with
      | none => rfl
      | some text => exact reason?_mark text
  | some text =>
      rw [Rule.messageFor?_eq_none_of_some (by decide) hw]
      rfl

/-! ## The reasons of a request -/

theorem filterMap_warnings {p : Policy} (hp : p.enabled = true) (levels : Nat) (record : Json) :
    (p.evaluate levels record).warnings.filterMap reason? =
      p.rules.filterMap
        (Rule.reason? (FlatRecord.ofJson levels record) (ResourceView.ofRecord record)) := by
  rw [Policy.evaluate_of_enabled hp, List.filterMap_filterMap, Policy.results,
    List.filterMap_map]
  apply List.filterMap_congr
  intro rule _
  exact bind_warning_result _ _ rule

/-- Only a policy that is switched on asks for approval. -/
theorem enabled_of_approvalRequired {p : Policy} {levels : Nat} {record : Json}
    (h : (p.evaluate levels record).approvalRequired = true) : p.enabled = true := by
  by_cases hp : p.enabled = true
  · exact hp
  · rw [Policy.evaluate, if_neg hp] at h
    exact absurd h Bool.false_ne_true

/-- The reasons of the request for a change are the messages of the rules that ask for approval
exactly if no rule warns with a text that begins with the mark. -/
theorem reasons_eq_messages_iff {p : Policy} {levels : Nat} {record : Json}
    (h : (p.evaluate levels record).approvalRequired = true) (changeId environment : String)
    (requirements : ApprovalRequirements) (approvers : List String) :
    let data := FlatRecord.ofJson levels record
    let view := ResourceView.ofRecord record
    ∃ request, ofEvaluation? (p.evaluate levels record) changeId environment requirements
        approvers = some request ∧
      request.reasons = p.rules.filterMap (Rule.reason? data view) ∧
      (request.reasons = p.rules.filterMap (Rule.messageFor? .requireApproval data view) ↔
        ∀ text ∈ p.rules.filterMap (Rule.messageFor? .warn data view),
          ¬ PolicyResult.approvalMark.toList <+: text.toList) := by
  intro data view
  have hreasons := filterMap_warnings (enabled_of_approvalRequired h) levels record
  refine ⟨_, by rw [ofEvaluation?, if_pos h], hreasons, ?_⟩
  rw [hreasons, filterMap_eq_filterMap_iff]
  · constructor
    · intro hnone text htext
      obtain ⟨rule, hrule, hw⟩ := List.mem_filterMap.mp htext
      have ha := Rule.messageFor?_eq_none_of_some (b := .requireApproval) (by decide) hw
      have hr := hnone rule hrule ha
      rw [Rule.reason?, ha, hw] at hr
      exact reason?_eq_none_iff.mp hr
    · intro hmark rule hrule ha
      rw [Rule.reason?, ha, Option.none_or, Option.bind_eq_none_iff]
      intro text hw
      exact reason?_eq_none_iff.mpr (hmark text (List.mem_filterMap.mpr ⟨rule, hrule, hw⟩))
  · intro rule text ha
    rw [Rule.reason?, ha, Option.some_or]

/-- Of two rules that ask for approval both messages are reasons, and no warning is. -/
theorem reasons_beside_plain_warning :
    let p : Policy := .new "change" "Change"
      [.new "gate" (.equals "environment" (.text "production")) .requireApproval
          "to {{environment}}",
        .new "note" (.present "comment") .warn "note: {{comment}}",
        .new "owner" (.absent "owner") .requireApproval "no owner"]
    let record : Json := .object
      [("comment", .text "Approval required: routine restart"), ("environment", .text "production")]
    (p.evaluate FlatRecord.defaultLevels record).approvalRequired = true ∧
      ∃ request, ofEvaluation? (p.evaluate FlatRecord.defaultLevels record) "chg-1" "production"
          .standard ["alice", "bob"] = some request ∧
        request.reasons = ["to production", "no owner"] := by
  intro p record
  have h : (p.evaluate FlatRecord.defaultLevels record).approvalRequired = true := by decide
  obtain ⟨request, hrequest, -, hiff⟩ :=
    reasons_eq_messages_iff h "chg-1" "production" .standard ["alice", "bob"]
  have hmessages := hiff.mpr (by decide +kernel)
  exact ⟨h, request, hrequest, hmessages.trans (by decide +kernel)⟩

/-- The record gives a warning the mark, and what stands behind it becomes a reason. -/
theorem reasons_beside_marked_warning :
    let p : Policy := .new "change" "Change"
      [.new "note" (.present "comment") .warn "{{comment}}",
        .new "gate" (.equals "environment" (.text "production")) .requireApproval
          "production change"]
    let record : Json := .object
      [("comment", .text "Approval required: routine restart"), ("environment", .text "production")]
    let data := FlatRecord.ofJson FlatRecord.defaultLevels record
    let view := ResourceView.ofRecord record
    (p.evaluate FlatRecord.defaultLevels record).approvalRequired = true ∧
      p.rules.filterMap (Rule.messageFor? .requireApproval data view) = ["production change"] ∧
      (ofEvaluation? (p.evaluate FlatRecord.defaultLevels record) "chg-1" "production"
        .standard ["alice", "bob"]).map ApprovalRequest.reasons =
          some ["routine restart", "production change"] := by
  refine ⟨by decide, by decide +kernel, by decide +kernel⟩

end ApprovalRequest

end Guardrail
