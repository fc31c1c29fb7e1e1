import Guardrail.Compliance.Catalog
import Guardrail.Compliance.Report

/-!
# Assessments

Every control of a framework judges every resource that it applies to. Only the query for resources
can fail as a whole: a resource that cannot be judged gets a failed finding.
-/

namespace Guardrail.Compliance

/-- The controls of each framework. -/
abbrev Catalogs := Framework → List Control

/-- The catalogs with the controls of one framework replaced. -/
def Catalogs.replace (cs : Catalogs) (framework : Framework) (controls : List Control) : Catalogs :=
  fun f => if f = framework then controls else cs f

/-- The finding of a control about a resource of a graph. -/
def examine (graph : GraphSource) (c : Control) (r : Resource) : Finding :=
  match Context.build graph r with
  | .error failure => .ofTrouble c r failure.message
  | .ok ctx =>
    match c.judge ctx with
    | .error crash => .ofTrouble c r crash.message
    | .ok verdict => .new c r verdict

/-- The resources that a control applies to. -/
def Control.scope (c : Control) (rs : List Resource) : List Resource :=
  rs.filter fun r => c.appliesTo r.kind

/-- The findings of several controls about several resources, by control and resource. -/
def findings (graph : GraphSource) (controls : List Control) (rs : List Resource) :
    List Finding :=
  let judged := controls.flatMap fun c => (c.scope rs).map (examine graph c)
  let vacant := (controls.filter fun c => (c.scope rs).isEmpty).map Finding.vacant
  (judged ++ vacant).mergeSort Finding.precedes

/-- The summary of a framework over several resources. -/
def summarise (cs : Catalogs) (graph : GraphSource) (rs : List Resource) (framework : Framework) :
    Summary :=
  .ofFindings framework (cs framework).length (findings graph (cs framework) rs)

/-- The summary of a framework over the resources that a filter lets through. -/
def assessFramework (cs : Catalogs) (graph : GraphSource) (filter : ResourceFilter)
    (framework : Framework) : Except Failure Summary :=
  (graph.query filter).map fun rs => summarise cs graph rs framework

/-- The report on several frameworks over the resources that a filter lets through. -/
def assess (cs : Catalogs) (graph : GraphSource) (filter : ResourceFilter)
    (frameworks : List Framework) : Except Failure Report :=
  (graph.query filter).map fun rs => .new (frameworks.map (summarise cs graph rs)) rs.length

end Guardrail.Compliance
