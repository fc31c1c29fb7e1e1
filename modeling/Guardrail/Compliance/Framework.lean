import Guardrail.Document.Fields
import Guardrail.Text.Blank
import Guardrail.Text.Case

/-!
# Frameworks and statuses

The compliance frameworks, and what may come of a control.
-/

namespace Guardrail.Compliance

/-- A compliance framework. -/
inductive Framework where
  | soc2
  | cis
  | hipaa
  | pciDss
  deriving DecidableEq, Repr, Inhabited

namespace Framework

/-- All frameworks. -/
def all : List Framework := [.soc2, .cis, .hipaa, .pciDss]

/-- The name of a framework in documents. -/
def id : Framework → String
  | .soc2 => "soc2"
  | .cis => "cis"
  | .hipaa => "hipaa"
  | .pciDss => "pci-dss"

/-- The name of a framework for people. -/
def title : Framework → String
  | .soc2 => "SOC 2"
  | .cis => "CIS Benchmarks"
  | .hipaa => "HIPAA"
  | .pciDss => "PCI-DSS"

/-- The framework that a person names: blanks, dashes, underscores and the case of letters do not
matter. -/
def ofText? (s : String) : Option Framework :=
  let letters := (Text.trim s.toList).map Char.toLower
  match String.ofList (letters.filter fun c => c ≠ '-' && c ≠ '_' && c ≠ ' ') with
  | "soc2" => some .soc2
  | "cis" => some .cis
  | "hipaa" => some .hipaa
  | "pcidss" => some .pciDss
  | "pci" => some .pciDss
  | _ => none

/-- The complaint about a name that names no framework. -/
def unknownMessage (s : String) : String :=
  "unknown compliance framework: " ++ s

/-- The framework that a document names. -/
def ofDocument? : Document → Option Framework :=
  Document.choice? fun name => all.find? (·.id = name)

/-- The framework as a value. -/
def toJson (f : Framework) : Json := .text f.id

theorem ofText?_id (f : Framework) : ofText? f.id = some f := by
  cases f <;> decide +kernel

end Framework

/-- What came of a control for a resource. -/
inductive Status where
  | pass
  | fail
  | warning
  | notApplicable
  deriving DecidableEq, Repr, Inhabited

namespace Status

/-- All statuses. -/
def all : List Status := [.pass, .fail, .warning, .notApplicable]

/-- The name of a status. -/
def name : Status → String
  | .pass => "pass"
  | .fail => "fail"
  | .warning => "warning"
  | .notApplicable => "not-applicable"

/-- The status with a name. -/
def ofName? (name : String) : Option Status :=
  all.find? (·.name = name)

/-- The status of a control whose check holds or not. -/
def ofCheck (holds : Bool) : Status :=
  if holds then .pass else .fail

/-- The status that a document names. -/
def ofDocument? : Document → Option Status :=
  Document.choice? ofName?

/-- The status as a value. -/
def toJson (s : Status) : Json := .text s.name

@[simp] theorem ofName?_name (s : Status) : ofName? s.name = some s := by
  cases s <;> decide

end Status

end Guardrail.Compliance
