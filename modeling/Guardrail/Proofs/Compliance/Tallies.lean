import Guardrail.Compliance.Summary

/-!
# Tallies of findings

A tally counts every finding once, under its status, and every failure also under the severity of
its control.
-/

namespace Guardrail.Compliance

namespace Tally

/-- What the counters of a tally say of the findings that it has counted. -/
structure Counts (t : Tally) (fs : List Finding) : Prop where
  status : ∀ s, t.count s = fs.countP (·.status = s)
  total : t.passed + t.failed + t.warnings + t.notApplicable = fs.length
  severity : ∀ v, t.failures.count v = fs.countP fun f => f.status = .fail ∧ f.severity = v
  failures : t.failures.total = t.failed

theorem count_record (t : Tally) (f : Finding) (s : Status) :
    (t.record f).count s = t.count s + if f.status = s then 1 else 0 := by
  unfold record
  cases f.status <;> cases s <;> rfl

theorem failures_record (t : Tally) (f : Finding) :
    (t.record f).failures =
      if f.status = .fail then t.failures.record f.severity else t.failures := by
  unfold record
  cases f.status <;> rfl

theorem counts_zero : zero.Counts [] where
  status := by rintro (_ | _) <;> rfl
  total := rfl
  severity := SeverityCounts.count_zero
  failures := rfl

theorem Counts.record {t : Tally} {fs : List Finding} (h : t.Counts fs) (f : Finding) :
    (t.record f).Counts (fs ++ [f]) where
  status := by
    intro s
    rw [count_record, h.status, List.countP_append, List.countP_singleton]
    simp only [decide_eq_true_eq]
  total := by
    have htotal := h.total
    rw [List.length_append, List.length_singleton, Tally.record]
    cases f.status <;> dsimp only <;> omega
  severity := by
    intro v
    rw [failures_record, List.countP_append, List.countP_singleton, ← h.severity]
    split
    next hf => simp [SeverityCounts.count_record, hf]
    next hf => simp [hf]
  failures := by
    have hfailed : (t.record f).failed = t.failed + if f.status = .fail then 1 else 0 :=
      count_record t f .fail
    rw [failures_record, hfailed, ← h.failures]
    split
    · exact SeverityCounts.total_record _ _
    · rfl

theorem counts_foldl {t : Tally} {fs : List Finding} (h : t.Counts fs) (gs : List Finding) :
    (gs.foldl Tally.record t).Counts (fs ++ gs) := by
  induction gs generalizing t fs with
  | nil => rwa [List.append_nil]
  | cons g gs ih =>
      have hgs := ih (h.record g)
      rwa [List.append_assoc] at hgs

theorem counts_ofFindings (fs : List Finding) : (ofFindings fs).Counts fs :=
  counts_foldl counts_zero fs

end Tally

/-- The score of a summary, computed in some arithmetic. -/
def Summary.scoreIn {α : Type} (a : Arithmetic α) (s : Summary) : α :=
  Compliance.score a s.tally.passed s.findings.length s.tally.notApplicable

/-- What the counters of a summary say of its findings. -/
structure Summary.Counts (s : Summary) (fs : List Finding) : Prop where
  findings : s.findings = fs
  checks : s.members.lookup "totalChecks" = some (.ofNat fs.length)
  tally : s.tally.Counts fs
  failures : s.failures.length = s.tally.failed
  score : s.score = s.scoreIn .float

theorem Summary.counts_ofFindings (framework : Framework) (controls : Nat) (fs : List Finding) :
    (ofFindings framework controls fs).Counts fs where
  findings := rfl
  checks := rfl
  tally := Tally.counts_ofFindings fs
  failures := by
    have hfailed := (Tally.counts_ofFindings fs).status .fail
    rw [Summary.failures, ← List.countP_eq_length_filter]
    exact hfailed.symm
  score := rfl

end Guardrail.Compliance
