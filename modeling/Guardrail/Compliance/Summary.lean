import Guardrail.Compliance.Finding
import Guardrail.Compliance.Score

/-!
# Summaries

The findings of one framework, counted by status and, where they failed, by severity.
-/

namespace Guardrail.Compliance

/-- Failures by the severity of their control. -/
structure SeverityCounts where
  critical : Nat
  high : Nat
  medium : Nat
  low : Nat
  info : Nat
  deriving DecidableEq, Repr, Inhabited

namespace SeverityCounts

/-- No failures. -/
def zero : SeverityCounts := ⟨0, 0, 0, 0, 0⟩

/-- The counts with one more failure. -/
def record (c : SeverityCounts) : Severity → SeverityCounts
  | .critical => { c with critical := c.critical + 1 }
  | .high => { c with high := c.high + 1 }
  | .medium => { c with medium := c.medium + 1 }
  | .low => { c with low := c.low + 1 }
  | .info => { c with info := c.info + 1 }

/-- The number of failures of a severity. -/
def count (c : SeverityCounts) : Severity → Nat
  | .critical => c.critical
  | .high => c.high
  | .medium => c.medium
  | .low => c.low
  | .info => c.info

/-- The number of failures. -/
def total (c : SeverityCounts) : Nat :=
  c.critical + c.high + c.medium + c.low + c.info

/-- The counts as a value. -/
def toJson (c : SeverityCounts) : Json :=
  Json.ofMembers (Severity.all.map fun s => (s.name, .ofNat (c.count s)))

@[simp] theorem count_zero (s : Severity) : zero.count s = 0 := by
  cases s <;> rfl

theorem count_record (c : SeverityCounts) (s t : Severity) :
    (c.record s).count t = c.count t + if s = t then 1 else 0 := by
  cases s <;> cases t <;> rfl

theorem total_record (c : SeverityCounts) (s : Severity) : (c.record s).total = c.total + 1 := by
  cases s <;> simp only [record, total] <;> omega

end SeverityCounts

/-- Findings by status. -/
structure Tally where
  passed : Nat
  failed : Nat
  warnings : Nat
  notApplicable : Nat
  failures : SeverityCounts
  deriving DecidableEq, Repr, Inhabited

namespace Tally

/-- No findings. -/
def zero : Tally := ⟨0, 0, 0, 0, .zero⟩

/-- The tally with one more finding. -/
def record (t : Tally) (f : Finding) : Tally :=
  match f.status with
  | .pass => { t with passed := t.passed + 1 }
  | .fail => { t with failed := t.failed + 1, failures := t.failures.record f.severity }
  | .warning => { t with warnings := t.warnings + 1 }
  | .notApplicable => { t with notApplicable := t.notApplicable + 1 }

/-- The tally of several findings. -/
def ofFindings (fs : List Finding) : Tally :=
  fs.foldl record zero

/-- The number of findings with a status. -/
def count (t : Tally) : Status → Nat
  | .pass => t.passed
  | .fail => t.failed
  | .warning => t.warnings
  | .notApplicable => t.notApplicable

end Tally

/-- The outcome of one framework. -/
structure Summary where
  framework : Framework
  /-- The number of controls in the catalog. -/
  controls : Nat
  tally : Tally
  score : Float
  findings : List Finding
  deriving DecidableEq, Repr

namespace Summary

/-- The summary of several findings. -/
def ofFindings (framework : Framework) (controls : Nat) (fs : List Finding) : Summary :=
  let tally := Tally.ofFindings fs
  { framework, controls, tally, findings := fs
    score := Compliance.score .float tally.passed fs.length tally.notApplicable }

/-- The findings that failed. -/
def failures (s : Summary) : List Finding :=
  s.findings.filter (·.status = .fail)

/-- The members of a summary as a value. -/
def members (s : Summary) : List (String × Json) :=
  [("framework", s.framework.toJson), ("frameworkName", .text s.framework.title),
    ("totalControls", .ofNat s.controls), ("totalChecks", .ofNat s.findings.length),
    ("passed", .ofNat s.tally.passed), ("failed", .ofNat s.tally.failed),
    ("warnings", .ofNat s.tally.warnings), ("notApplicable", .ofNat s.tally.notApplicable),
    ("score", .ofFloat s.score), ("failuresBySeverity", s.tally.failures.toJson),
    ("results", .array (s.findings.map Finding.toJson))]

end Summary

end Guardrail.Compliance
