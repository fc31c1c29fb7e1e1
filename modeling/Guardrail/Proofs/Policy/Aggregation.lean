import Guardrail.Policy.Loading
import Mathlib.Data.List.Perm.Basic
import Mathlib.Data.List.Induction

/-!
# Aggregates

An aggregate is read off the list of its outcomes. Outcomes that are put together have their
aggregates put together, and only its lists show in which order they came. A set of policies
evaluates those that its steps have brought, one by one.
-/

namespace Guardrail

namespace AggregateResult

/-! ## Reading an aggregate off its outcomes -/

theorem ofResults_concat (rs : List PolicyResult) (r : PolicyResult) :
    ofResults (rs ++ [r]) = (ofResults rs).add r :=
  List.foldl_concat add empty r rs

theorem ofResults_eq (rs : List PolicyResult) :
    ofResults rs =
      { allowed := !rs.any (·.denied)
        denied := rs.any (·.denied)
        warnings := rs.flatMap (·.warnings)
        denials := rs.flatMap (·.denials)
        approvalRequired := rs.any (·.approvalRequired)
        notifications := rs.flatMap (·.notifications)
        passedPolicies := rs.countP (!·.denied)
        failedPolicies := rs.countP (·.denied)
        results := rs
        totalDurationMs := rs.foldl (fun total r => total + r.durationMs) 0 } := by
  induction rs using List.reverseRecOn with
  | nil => rfl
  | append_singleton rs r ih =>
      rw [ofResults_concat, ih]
      cases h : r.denied <;> simp [add, h, List.countP_append]

/-- An aggregate is two others put together. -/
structure Joins (a b c : AggregateResult) : Prop where
  warnings : c.warnings = a.warnings ++ b.warnings
  denials : c.denials = a.denials ++ b.denials
  notifications : c.notifications = a.notifications ++ b.notifications
  results : c.results = a.results ++ b.results
  passedPolicies : c.passedPolicies = a.passedPolicies + b.passedPolicies
  failedPolicies : c.failedPolicies = a.failedPolicies + b.failedPolicies
  denied : c.denied = (a.denied || b.denied)
  approvalRequired : c.approvalRequired = (a.approvalRequired || b.approvalRequired)

theorem joins_append (xs ys : List PolicyResult) :
    (ofResults xs).Joins (ofResults ys) (ofResults (xs ++ ys)) := by
  simp only [ofResults_eq]
  exact
    { warnings := List.flatMap_append
      denials := List.flatMap_append
      notifications := List.flatMap_append
      results := rfl
      passedPolicies := List.countP_append
      failedPolicies := List.countP_append
      denied := List.any_append
      approvalRequired := List.any_append }

/-- The verdict of an aggregate and its counts fit each other and the outcomes. -/
structure Tallies (a : AggregateResult) (rs : List PolicyResult) : Prop where
  size : a.passedPolicies + a.failedPolicies = rs.length
  denied_iff : a.denied = true ↔ 0 < a.failedPolicies
  allowed : a.allowed = !a.denied

theorem tallies_ofResults (rs : List PolicyResult) : (ofResults rs).Tallies rs := by
  have hsize : rs.countP (!·.denied) + rs.countP (·.denied) = rs.length := by
    have hsplit := List.length_eq_countP_add_countP (·.denied) (l := rs)
    simp only [Bool.not_eq_true, Bool.decide_eq_false] at hsplit
    omega
  simp only [ofResults_eq]
  exact
    { size := hsize
      denied_iff := by rw [List.any_eq_true, List.countP_pos_iff]
      allowed := rfl }

/-- Two aggregates have the same flags and counts. -/
structure SameCounts (a b : AggregateResult) : Prop where
  allowed : a.allowed = b.allowed
  denied : a.denied = b.denied
  approvalRequired : a.approvalRequired = b.approvalRequired
  passedPolicies : a.passedPolicies = b.passedPolicies
  failedPolicies : a.failedPolicies = b.failedPolicies

theorem sameCounts_of_perm {xs ys : List PolicyResult} (h : xs.Perm ys) :
    (ofResults xs).SameCounts (ofResults ys) := by
  simp only [ofResults_eq]
  exact
    { allowed := congrArg not h.any_eq
      denied := h.any_eq
      approvalRequired := h.any_eq
      passedPolicies := h.countP_eq _
      failedPolicies := h.countP_eq _ }

end AggregateResult

namespace PolicySet

/-! ## Sets of policies over time -/

/-- The policy that a step brings, unless it fails. -/
def Step.policy? : Step → Option Policy
  | .add p => some p
  | .load f => (Policy.ofFile f).toOption

theorem perform_of_error {s : PolicySet} {step : Step} {failure : Failure}
    (h : s.attempt step = .error failure) : s.perform step = s := by
  rw [perform, h]

theorem perform_eq (s : PolicySet) (step : Step) :
    s.perform step = { s with policies := s.policies ++ step.policy?.toList } := by
  cases step with
  | add p => rfl
  | load f =>
      cases h : Policy.ofFile f with
      | ok p => simp [perform, attempt, load, Step.policy?, h, Except.map, Except.toOption, add]
      | error failure =>
          have hattempt : s.attempt (.load f) = .error failure := by
            simp [attempt, load, h, Except.map]
          rw [perform_of_error hattempt]
          simp [Step.policy?, h, Except.toOption]

theorem run_eq (s : PolicySet) (steps : List Step) :
    s.run steps = { s with policies := s.policies ++ steps.filterMap Step.policy? } := by
  induction steps generalizing s with
  | nil => simp [run]
  | cons step steps ih =>
      have hrest : s.run (step :: steps) = (s.perform step).run steps := rfl
      rw [hrest, ih, perform_eq]
      cases h : step.policy? <;> simp [h]

open AggregateResult in
/-- A set of policies aggregates the outcomes of the policies that its steps have brought, whatever
steps failed between them. Aggregates go together as their outcomes do. -/
theorem aggregates_run :
    (∀ levels steps record,
      let given := steps.filterMap Step.policy?
      let s := (empty levels).run steps
      s.policies = given ∧ s.evaluate record = ofResults (given.map (·.evaluate levels record))) ∧
    (∀ (s : PolicySet) step failure, s.attempt step = .error failure → s.perform step = s) ∧
    (∀ xs ys, (ofResults xs).Joins (ofResults ys) (ofResults (xs ++ ys))) ∧
    (∀ rs, (ofResults rs).Tallies rs) ∧
    (∀ xs ys : List PolicyResult, xs.Perm ys → (ofResults xs).SameCounts (ofResults ys)) := by
  refine ⟨fun levels steps record => ?_, fun _ _ _ => perform_of_error, joins_append,
    tallies_ofResults, fun _ _ => sameCounts_of_perm⟩
  intro given s
  have hs : s = { empty levels with policies := given } := run_eq (empty levels) steps
  rw [hs]
  exact ⟨rfl, rfl⟩

/-- A file that is missing brings nothing, and the policy that denies may come first or last. -/
theorem aggregates_beside_missing_file :
    let asks := Policy.new "a" "Ask" [.new "r" (.custom none) .requireApproval "ask"]
    let denies := Policy.new "d" "Deny" [.new "r" (.custom none) .deny "no"]
    let lost : Step := .load ⟨"lost.yaml", none⟩
    let s := (empty 20).run [.add asks, lost, .add denies]
    let x := asks.evaluate 20 .null
    let y := denies.evaluate 20 .null
    s.perform lost = s ∧ s.policies = [asks, denies] ∧ (s.evaluate .null).results = [x, y] ∧
      (AggregateResult.ofResults [y, x]).SameCounts (s.evaluate .null) ∧
      (s.evaluate .null).failedPolicies = 1 ∧ (s.evaluate .null).approvalRequired = true := by
  intro asks denies lost s x y
  obtain ⟨hrun, hfails, -, -, hperm⟩ := aggregates_run
  have hlost : s.attempt lost = .error (.io "No such file or directory (os error 2)") := rfl
  obtain ⟨hpolicies, hevaluate⟩ := hrun 20 [.add asks, lost, .add denies] .null
  have hresults : s.evaluate .null = AggregateResult.ofResults [x, y] := hevaluate
  rw [hresults]
  exact ⟨hfails s lost _ hlost, hpolicies, rfl, hperm _ _ (.swap x y []), by decide, by decide⟩

end PolicySet

end Guardrail
