import Guardrail.Policy.Evaluation

/-!
# Outcomes by rule

What a policy says of a record follows from what becomes of each of its rules: every list of an
outcome holds the messages of the rules that name it, in the order of the rules.
-/

namespace Guardrail

/-- What becomes of a rule on a record. -/
def Rule.result (data : FlatRecord) (view : ResourceView) (rule : Rule) : RuleResult :=
  if rule.condition.holds data (some view) then
    ⟨rule.id, false, rule.action, some (Message.render rule.message data)⟩
  else ⟨rule.id, true, rule.action, none⟩

namespace RuleResult

/-- The message of a rule with a certain action. -/
def messageOf (action : Action) (r : RuleResult) : Option String :=
  if r.action = action then r.message? else none

/-- The warning that a rule gives: its message, behind a mark if the rule asks for approval. -/
def warning? (r : RuleResult) : Option String :=
  (r.messageOf .warn).or ((r.messageOf .requireApproval).map (PolicyResult.approvalMark ++ ·))

end RuleResult

namespace PolicyResult

/-- The outcome with the results of further rules. -/
def extend (r : PolicyResult) (results : List RuleResult) : PolicyResult :=
  { r with
    warnings := r.warnings ++ results.filterMap RuleResult.warning?
    denials := r.denials ++ results.filterMap (RuleResult.messageOf .deny)
    approvalRequired :=
      r.approvalRequired || !(results.filterMap (RuleResult.messageOf .requireApproval)).isEmpty
    notifications := r.notifications ++ results.filterMap (RuleResult.messageOf .notify)
    rules := r.rules ++ results }

@[simp] theorem extend_nil (r : PolicyResult) : r.extend [] = r := by
  simp [extend]

theorem extend_extend (r : PolicyResult) (xs ys : List RuleResult) :
    (r.extend xs).extend ys = r.extend (xs ++ ys) := by
  have he : ∀ as bs : List String, (as ++ bs).isEmpty = (as.isEmpty && bs.isEmpty) := by
    intro as bs
    cases as <;> rfl
  simp [extend, List.append_assoc, Bool.or_assoc, he]

theorem tryRule_eq_extend (data : FlatRecord) (view : ResourceView) (r : PolicyResult)
    (rule : Rule) : r.tryRule data view rule = r.extend [rule.result data view] := by
  unfold tryRule Rule.result
  split
  · cases rule.action <;>
      simp [extend, raise, note, RuleResult.warning?, RuleResult.messageOf]
  · simp [extend, note, RuleResult.warning?, RuleResult.messageOf]

theorem foldl_tryRule (data : FlatRecord) (view : ResourceView) (rules : List Rule)
    (r : PolicyResult) :
    rules.foldl (tryRule data view) r = r.extend (rules.map (Rule.result data view)) := by
  induction rules generalizing r with
  | nil => simp
  | cons rule rules ih =>
      rw [List.foldl_cons, ih, tryRule_eq_extend, extend_extend]
      rfl

end PolicyResult

namespace Policy

/-- The results of the rules of a policy on a record. -/
def results (p : Policy) (levels : Nat) (record : Json) : List RuleResult :=
  p.rules.map (Rule.result (FlatRecord.ofJson levels record) (ResourceView.ofRecord record))

/-- The outcome of a policy that is switched on, read off the results of its rules. -/
theorem evaluate_of_enabled {p : Policy} (h : p.enabled = true) (levels : Nat) (record : Json) :
    p.evaluate levels record =
      { policyId := p.id
        policyName := p.name
        allowed := ((p.results levels record).filterMap (RuleResult.messageOf .deny)).isEmpty
        denied := !((p.results levels record).filterMap (RuleResult.messageOf .deny)).isEmpty
        warnings := (p.results levels record).filterMap RuleResult.warning?
        denials := (p.results levels record).filterMap (RuleResult.messageOf .deny)
        approvalRequired :=
          !((p.results levels record).filterMap (RuleResult.messageOf .requireApproval)).isEmpty
        notifications := (p.results levels record).filterMap (RuleResult.messageOf .notify)
        rules := p.results levels record
        durationMs := 0 } := by
  simp only [evaluate, h, if_true, PolicyResult.foldl_tryRule]
  rfl

theorem isSome_messageOf_result (action : Action) (data : FlatRecord) (view : ResourceView)
    (rule : Rule) :
    ((rule.result data view).messageOf action).isSome ↔
      rule.action = action ∧ rule.condition.holds data (some view) = true := by
  unfold Rule.result RuleResult.messageOf
  split <;> split <;> simp_all

/-- A policy denies exactly if the condition of one of its deny rules holds. -/
theorem denied_evaluate_iff {p : Policy} (h : p.enabled = true) (levels : Nat) (record : Json) :
    (p.evaluate levels record).denied = true ↔
      ∃ rule ∈ p.rules, rule.action = .deny ∧
        rule.condition.holds (FlatRecord.ofJson levels record)
          (some (ResourceView.ofRecord record)) = true := by
  rw [evaluate_of_enabled h]
  have hd : (p.results levels record).filterMap (RuleResult.messageOf .deny) ≠ [] ↔
      ∃ rule ∈ p.rules, ((rule.result (FlatRecord.ofJson levels record)
        (ResourceView.ofRecord record)).messageOf .deny).isSome := by
    simp [results, List.filterMap_eq_nil_iff, Option.isSome_iff_ne_none]
  simpa [isSome_messageOf_result] using hd

end Policy

end Guardrail
