import Guardrail.Proofs.Compliance.Slots
import Guardrail.Proofs.Pool

/-!
# The rows of a summary

A summary has one row for every control and every resource that the control covers, and one row for
every control that covers none. It has no others, however many rows are worked out at once.
-/

namespace Guardrail.Compliance

/-- What the rows of a summary account for. -/
structure Summary.Accounts (graph : GraphSource) (controls : List Control) (rs : List Resource)
    (s : Summary) : Prop where
  total : s.controls = controls.length
  /-- Every slot has its row, and there is no other row. -/
  rows : s.findings.Perm ((Slot.all controls rs).map (Slot.finding graph))
  labels : ∀ slot ∈ Slot.all controls rs, (slot.finding graph).BelongsTo slot
  checks : s.findings.length =
    (controls.map fun c => max 1 (rs.countP fun r => decide (c.Covers r))).sum
  ordered : s.findings.Pairwise fun a b =>
    a.controlId < b.controlId ∨ a.controlId = b.controlId ∧ a.resourceId ≤ b.resourceId
  /-- Rows with the same ids stand in the order of the controls and then of the resources, rows
  without a resource last. -/
  stable : ∀ controlId resourceId,
    (s.findings.filter fun f => f.controlId = controlId ∧ f.resourceId = resourceId) =
      ((Slot.judged controls rs ++ Slot.vacant controls rs).map (Slot.finding graph)).filter
        fun f => f.controlId = controlId ∧ f.resourceId = resourceId

/-- The summary is put together from rows that were worked out side by side. -/
def Summary.IsPooled (bound : Nat) (graph : GraphSource) (framework : Framework)
    (controls : List Control) (rs : List Resource) (s : Summary) : Prop :=
  ∃ rows, Pool.Delivers bound (Slot.finding graph) (Slot.judged controls rs) rows ∧
    s = .ofFindings framework controls.length
      ((rows ++ (Slot.vacant controls rs).map (Slot.finding graph)).mergeSort Finding.precedes)

theorem isPooled_iff {bound : Nat} (hbound : 0 < bound) (cs : Catalogs) (graph : GraphSource)
    (rs : List Resource) (framework : Framework) (s : Summary) :
    s.IsPooled bound graph framework (cs framework) rs ↔ s = summarise cs graph rs framework := by
  have hfindings : findings graph (cs framework) rs =
      ((Slot.judged (cs framework) rs).map (Slot.finding graph) ++
        (Slot.vacant (cs framework) rs).map (Slot.finding graph)).mergeSort Finding.precedes := by
    rw [Slot.map_finding_judged, Slot.map_finding_vacant]
    rfl
  rw [summarise, hfindings, Summary.IsPooled]
  simp only [Pool.delivers_iff hbound, exists_eq_left]

theorem perm_findings (graph : GraphSource) (controls : List Control) (rs : List Resource) :
    (findings graph controls rs).Perm ((Slot.all controls rs).map (Slot.finding graph)) := by
  rw [Slot.findings_eq_map_arranged]
  exact (Slot.perm_arranged controls rs).map _

theorem length_findings (graph : GraphSource) (controls : List Control) (rs : List Resource) :
    (findings graph controls rs).length =
      (controls.map fun c => max 1 (rs.countP fun r => decide (c.Covers r))).sum := by
  rw [(perm_findings graph controls rs).length_eq, List.length_map, Slot.all, List.length_flatMap]
  simp only [Slot.length_ofControl]

theorem pairwise_findings (graph : GraphSource) (controls : List Control) (rs : List Resource) :
    (findings graph controls rs).Pairwise fun a b =>
      a.controlId < b.controlId ∨ a.controlId = b.controlId ∧ a.resourceId ≤ b.resourceId :=
  (pairwise_mergeSort_key Finding.precedes_iff _).imp fun hab => Prod.Lex.toLex_le_toLex.mp hab

theorem filter_findings (graph : GraphSource) (controls : List Control) (rs : List Resource)
    (controlId resourceId : String) :
    ((findings graph controls rs).filter fun f =>
        f.controlId = controlId ∧ f.resourceId = resourceId) =
      ((Slot.judged controls rs ++ Slot.vacant controls rs).map (Slot.finding graph)).filter
        fun f => f.controlId = controlId ∧ f.resourceId = resourceId := by
  have hkey : ∀ f : Finding, decide (f.controlId = controlId ∧ f.resourceId = resourceId) =
      decide (f.key = toLex (controlId, resourceId)) := by
    intro f
    simp [Finding.key]
  simp only [hkey]
  rw [findings, filter_mergeSort_key Finding.precedes_iff, List.map_append,
    Slot.map_finding_judged, Slot.map_finding_vacant]

theorem accounts_summarise (cs : Catalogs) (graph : GraphSource) (rs : List Resource)
    (framework : Framework) :
    (summarise cs graph rs framework).Accounts graph (cs framework) rs where
  total := rfl
  rows := perm_findings graph (cs framework) rs
  labels := fun slot _ => slot.finding_belongsTo graph
  checks := length_findings graph (cs framework) rs
  ordered := pairwise_findings graph (cs framework) rs
  stable := filter_findings graph (cs framework) rs

/-- Once the resources are known there is a summary; it accounts for all of them, and it is the only
one that can come about, whatever number of rows is worked out at once. -/
theorem assessFramework_accounts (cs : Catalogs) {graph : GraphSource} {filter : ResourceFilter}
    {rs : List Resource} (h : graph.query filter = .ok rs) (framework : Framework) :
    ∃ s, assessFramework cs graph filter framework = .ok s ∧
      s.Accounts graph (cs framework) rs ∧
      ∀ (concurrency : Nat) (t : Summary),
        t.IsPooled (max 1 concurrency) graph framework (cs framework) rs ↔ t = s := by
  refine ⟨summarise cs graph rs framework, ?_, accounts_summarise cs graph rs framework, ?_⟩
  · rw [assessFramework, h]
    rfl
  · intro concurrency t
    have hbound : 0 < max 1 concurrency := by omega
    exact isPooled_iff hbound cs graph rs framework t

/-- Two controls of one id and one that covers nothing have six rows, and a resource
without an id is judged like the others. -/
theorem accounts_of_shared_id :
    let control (id : String) (kinds : List String) : Control :=
      { id, framework := .cis, clause := "1", title := "T", description := "", severity := .high,
        kinds, judge := fun ctx => .ok ⟨.ofCheck (ctx.resource.id = ""), "checked"⟩ }
    let cs := Catalogs.replace Catalog.standard .soc2
      [control "B" ["vm", "VM"], control "A" ["db"], control "B" ["*"]]
    let graph : Graph :=
      { resources := [.new "x" "Vm" "aws", .new "y" "bucket" "gcp", .new "" "vM" "aws"], edges := [] }
    graph.source.query .all = .ok graph.resources ∧
      ∃ s, assessFramework cs graph.source .all .soc2 = .ok s ∧ s.controls = 3 ∧
        s.findings.length = 6 ∧ s.findings.countP (·.resourceId = "x") = 2 := by
  intro control cs graph
  have hquery : graph.source.query .all = .ok graph.resources := rfl
  obtain ⟨s, hs, h, -⟩ := assessFramework_accounts cs hquery .soc2
  exact ⟨hquery, s, hs, h.total, h.checks.trans (by decide), (h.rows.countP_eq _).trans (by decide)⟩

end Guardrail.Compliance
