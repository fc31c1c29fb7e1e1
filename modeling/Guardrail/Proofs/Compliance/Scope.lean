import Guardrail.Proofs.Compliance.Slots

/-!
# Scopes

A filter decides which resources are judged, and nothing else. What is found of a resource depends on
the whole graph, with the neighbours that the filter leaves out.
-/

namespace Guardrail

/-- What a filter asks of a resource; names are compared exactly. -/
structure ResourceFilter.Admits (f : ResourceFilter) (r : Resource) : Prop where
  provider : ∀ provider ∈ f.provider?, r.provider = provider
  kind : ∀ kinds ∈ f.kinds?, r.kind ∈ kinds
  region : ∀ region ∈ f.region?, r.region = region
  account : ∀ account ∈ f.account?, r.account? = some account

theorem ResourceFilter.accepts_iff {f : ResourceFilter} {r : Resource} :
    f.accepts r = true ↔ f.Admits r := by
  simp only [accepts, Bool.and_eq_true, Option.all_eq_true, beq_iff_eq, List.contains_iff_mem]
  constructor
  · rintro ⟨⟨⟨hprovider, hkind⟩, hregion⟩, haccount⟩
    exact ⟨fun p hp => (hprovider p hp).symm, hkind, fun p hp => (hregion p hp).symm, haccount⟩
  · rintro ⟨hprovider, hkind, hregion, haccount⟩
    exact ⟨⟨⟨fun p hp => (hprovider p hp).symm, hkind⟩, fun p hp => (hregion p hp).symm⟩, haccount⟩

instance (f : ResourceFilter) (r : Resource) : Decidable (f.Admits r) :=
  decidable_of_iff _ ResourceFilter.accepts_iff

theorem Graph.query_eq (g : Graph) (f : ResourceFilter) :
    g.query f = g.resources.filter fun r => decide (f.Admits r) := by
  refine List.filter_congr fun r _ => ?_
  rw [Bool.eq_iff_iff, decide_eq_true_iff]
  exact ResourceFilter.accepts_iff

namespace Compliance

namespace Slot

/-- Whether a slot has a resource that a filter admits. -/
def isWithin (f : ResourceFilter) (s : Slot) : Bool :=
  s.resource?.any fun r => decide (f.Admits r)

/-- The slots of the admitted resources are taken from those of all resources. A control is alone in
its slot if it covers none of the admitted ones. -/
structure Narrows (f : ResourceFilter) (controls : List Control) (rs : List Resource)
    (whole part : List Slot) : Prop where
  perm_whole : whole.Perm (all controls rs)
  perm_part : part.Perm (all controls (rs.filter fun r => decide (f.Admits r)))
  judged : part.filter (·.resource?.isSome) = whole.filter (isWithin f)
  vacant : ∀ c, ⟨c, none⟩ ∈ part ↔ c ∈ controls ∧ ∀ r ∈ rs, f.Admits r → ¬c.Covers r

theorem judged_filter (controls : List Control) (rs : List Resource) (f : ResourceFilter) :
    judged controls (rs.filter fun r => decide (f.Admits r)) =
      (judged controls rs).filter (isWithin f) := by
  have hscope : ∀ c : Control, c.scope (rs.filter fun r => decide (f.Admits r)) =
      (c.scope rs).filter fun r => decide (f.Admits r) := fun c => List.filter_comm _ _ _
  simp only [judged, List.filter_flatMap, List.filter_map, hscope]
  rfl

theorem filter_isSome_judged (controls : List Control) (rs : List Resource) :
    (judged controls rs).filter (·.resource?.isSome) = judged controls rs := by
  refine List.filter_eq_self.mpr fun s hs => ?_
  obtain ⟨c, -, hs⟩ := List.mem_flatMap.mp hs
  obtain ⟨r, -, rfl⟩ := List.mem_map.mp hs
  rfl

theorem narrows_arranged (f : ResourceFilter) (controls : List Control) (rs : List Resource) :
    Narrows f controls rs (arranged controls rs)
      (arranged controls (rs.filter fun r => decide (f.Admits r))) where
  perm_whole := perm_arranged controls rs
  perm_part := perm_arranged controls _
  judged := by
    rw [filter_arranged (fun _ => rfl), filter_arranged (fun _ => rfl), filter_isSome_judged,
      judged_filter]
  vacant := by
    intro c
    rw [(perm_arranged controls _).mem_iff, mem_all_none]
    simp only [List.mem_filter, decide_eq_true_eq, and_imp]

end Slot

/-- With a filter there are the findings about the resources that it admits, as they are without
one, and a finding without a resource for every control that covers none of these. A report on several
frameworks holds the summary of each. -/
theorem assess_narrowed (cs : Catalogs) (g : Graph) (f : ResourceFilter)
    (frameworks : List Framework) :
    (∀ framework, ∃ (whole part : List Slot) (s t : Summary),
      Slot.Narrows f (cs framework) g.resources whole part ∧
      assessFramework cs g.source .all framework = .ok s ∧
      s.findings = whole.map (Slot.finding g.source) ∧
      assessFramework cs g.source f framework = .ok t ∧
      t.findings = part.map (Slot.finding g.source)) ∧
    ∃ report, assess cs g.source f frameworks = .ok report ∧
      report.summaries.map .ok = frameworks.map (assessFramework cs g.source f) ∧
      report.resources = g.resources.countP fun r => decide (f.Admits r) := by
  have hall : g.query .all = g.resources := by
    simp [Graph.query]
  refine ⟨fun framework => ?_, .new (frameworks.map (summarise cs g.source (g.query f)))
    (g.query f).length, rfl, ?_, ?_⟩
  · refine ⟨Slot.arranged (cs framework) g.resources, Slot.arranged (cs framework) (g.query f),
      summarise cs g.source (g.query .all) framework, summarise cs g.source (g.query f) framework,
      ?_, rfl, ?_, rfl, Slot.findings_eq_map_arranged _ _ _⟩
    · rw [g.query_eq]
      exact Slot.narrows_arranged f _ _
    · rw [hall]
      exact Slot.findings_eq_map_arranged _ _ _
  · exact List.map_map
  · rw [List.countP_eq_length_filter, ← g.query_eq]
    rfl

end Compliance

end Guardrail
