import Guardrail.Proofs.Compliance.StorageOrder

/-!
# Growing graphs

A graph grows when edges are added and resources are appended. What a control sees of a resource
grows with it: an edge that led nowhere may find its end, and nothing gets lost. A control of a
catalog that has passed the resource passes it still.
-/

namespace Guardrail

namespace Graph

/-- A graph with further edges, and with further resources behind those of another one. -/
structure Extends (h g : Graph) : Prop where
  resources : g.resources <+: h.resources
  edges : g.edges ⊆ h.edges

variable {g h : Graph}

theorem extends_addResource (g : Graph) (r : Resource) : (g.addResource r).Extends g :=
  ⟨List.prefix_append _ _, List.Subset.refl _⟩

theorem extends_addEdge (g : Graph) (e : Edge) : (g.addEdge e).Extends g :=
  ⟨List.prefix_rfl, List.subset_append_left _ _⟩

namespace Extends

theorem trans {k : Graph} (hkh : k.Extends h) (hgh : h.Extends g) : k.Extends g :=
  ⟨hgh.resources.trans hkh.resources, List.Subset.trans hgh.edges hkh.edges⟩

/-- The first resource with an id is still the first. -/
theorem find?_eq_some (hgh : h.Extends g) {id : String} {r : Resource} (hr : g.find? id = some r) :
    h.find? id = some r := by
  obtain ⟨further, hresources⟩ := hgh.resources
  rw [find?, ← hresources, List.find?_append, ← find?, hr]
  rfl

theorem query_sublist (hgh : h.Extends g) (filter : ResourceFilter) :
    (g.query filter).Sublist (h.query filter) :=
  hgh.resources.sublist.filter _

theorem edgesOf_subset (hgh : h.Extends g) (id : String) (direction : Direction) :
    g.edgesOf id direction ⊆ h.edgesOf id direction :=
  List.filter_subset _ hgh.edges

end Extends

end Graph

namespace Compliance

/-! ## Contexts -/

/-- A context of the same resource with at least the edges and neighbours of another one. -/
structure Context.Widens (ctx' ctx : Context) : Prop where
  resource : ctx'.resource = ctx.resource
  edges : ctx.edges ⊆ ctx'.edges
  neighbours : ctx.neighbours ⊆ ctx'.neighbours

namespace Context

theorem neighbourIds_subset {edges edges' : List Edge} (h : edges ⊆ edges') (id : String) :
    neighbourIds id edges ⊆ neighbourIds id edges' := by
  intro other hother
  rw [neighbourIds, List.mem_eraseDups] at hother ⊢
  exact List.filter_subset _ (List.filterMap_subset _ h) hother

theorem widens_within {g h : Graph} (hgh : h.Extends g) (r : Resource) :
    (within h r).Widens (within g r) where
  resource := rfl
  edges := hgh.edgesOf_subset r.id .both
  neighbours := by
    intro neighbour hneighbour
    obtain ⟨id, hid, hfind⟩ := List.mem_filterMap.mp hneighbour
    have hid' := neighbourIds_subset (hgh.edgesOf_subset r.id .both) r.id hid
    exact List.mem_filterMap.mpr ⟨id, hid', hgh.find?_eq_some hfind⟩

namespace Widens

variable {ctx ctx' : Context}

theorem hasEdge (h : ctx'.Widens ctx) {kind : String} (hkind : ctx.hasEdge kind = true) :
    ctx'.hasEdge kind = true := by
  rw [hasEdge_iff] at hkind ⊢
  obtain ⟨e, he, hkind⟩ := hkind
  exact ⟨e, h.edges he, hkind⟩

theorem hasNeighbour (h : ctx'.Widens ctx) {fragment : String}
    (hfragment : ctx.hasNeighbour fragment = true) : ctx'.hasNeighbour fragment = true := by
  rw [Context.hasNeighbour, List.any_eq_true] at hfragment ⊢
  obtain ⟨r, hr, hfragment⟩ := hfragment
  exact ⟨r, h.neighbours hr, hfragment⟩

/-- Relationships and neighbours are signals for a safeguard and never rule one out. -/
theorem gives (h : ctx'.Widens ctx) {s : Signals} (hs : ctx.gives s = true) :
    ctx'.gives s = true := by
  have hedges : s.edges.any ctx.hasEdge = true → s.edges.any ctx'.hasEdge = true := by
    rw [List.any_eq_true, List.any_eq_true]
    exact fun ⟨kind, hkind, hsome⟩ => ⟨kind, hkind, h.hasEdge hsome⟩
  have hneighbours : s.neighbours.any ctx.hasNeighbour = true →
      s.neighbours.any ctx'.hasNeighbour = true := by
    rw [List.any_eq_true, List.any_eq_true]
    exact fun ⟨fragment, hfragment, hsome⟩ => ⟨fragment, hfragment, h.hasNeighbour hsome⟩
  simp only [Context.gives, flag, present, attributes_eq h.resource, reaches_eq h.resource,
    tagPasses_eq h.resource, Bool.and_eq_true, Bool.or_eq_true] at hs ⊢
  exact ⟨hs.1, hs.2.imp_left (Or.imp (Or.imp_right hedges) hneighbours)⟩

theorem judge_eq_of_pass (h : ctx'.Widens ctx) {d : Demand}
    (hpass : (d.judge ctx).status = .pass) : d.judge ctx' = d.judge ctx := by
  cases d with
  | safeguard s =>
      have hholds : s.holds ctx = true := by
        cases hs : s.holds ctx with
        | true => rfl
        | false =>
            rw [Demand.judge, Safeguard.judge, hs] at hpass
            have hfail : Status.fail = .pass := hpass
            exact absurd hfail (by decide)
      have hholds' : s.holds ctx' = true := h.gives hholds
      rw [Demand.judge, Safeguard.judge, hholds', h.resource, Demand.judge, Safeguard.judge, hholds]
  | tags => exact judgeTags_eq h.resource

end Widens

end Context

/-! ## Findings -/

/-- A verdict by which the control passes a resource stands when the context grows. -/
def Control.KeepsPasses (c : Control) : Prop :=
  ∀ ctx ctx' v, ctx'.Widens ctx → c.judge ctx = .ok v → v.status = .pass → c.judge ctx' = .ok v

theorem Catalog.keepsPasses_of_mem_standard {framework : Framework} {c : Control}
    (hc : c ∈ standard framework) : c.KeepsPasses := by
  obtain ⟨d, hd⟩ := exists_judge_of_mem_standard hc
  intro ctx ctx' v h hv hpass
  rw [hd] at hv
  obtain rfl := Except.ok.inj hv
  rw [hd, h.judge_eq_of_pass hpass]

variable {g h : Graph}

theorem finding_eq_of_pass (hgh : h.Extends g) {s : Slot} (hs : s.control.KeepsPasses)
    (hpass : (s.finding g.source).status = .pass) : s.finding h.source = s.finding g.source := by
  obtain ⟨c, r?⟩ := s
  cases r? with
  | none => rfl
  | some r =>
      simp only [Slot.finding, examine_source] at hpass ⊢
      cases hv : c.judge (Context.within g r) with
      | error crash =>
          rw [hv] at hpass
          have hfail : Status.fail = .pass := hpass
          exact absurd hfail (by decide)
      | ok v =>
          rw [hv] at hpass
          have hv' := hs _ _ v (Context.widens_within hgh r) hv hpass
          rw [hv']

/-! ## Slots -/

namespace Slot

variable {rs ss : List Resource}

theorem judged_sublist (controls : List Control) (h : rs.Sublist ss) :
    (judged controls rs).Sublist (judged controls ss) := by
  induction controls with
  | nil => exact List.Sublist.refl _
  | cons c controls ih =>
      have hscope : (c.scope rs).Sublist (c.scope ss) := h.filter _
      rw [judged, judged, List.flatMap_cons, List.flatMap_cons]
      exact (hscope.map _).append ih

/-- The slots with a resource that is there already keep their order. -/
theorem filter_arranged_sublist {p : Slot → Bool} (hp : ∀ c, p ⟨c, none⟩ = false)
    (controls : List Control) (h : rs.Sublist ss) :
    ((arranged controls rs).filter p).Sublist (arranged controls ss) := by
  rw [filter_arranged hp]
  refine mergeSort_sublist_mergeSort precedes_iff ?_
  have hjudged := judged_sublist controls h
  exact List.filter_sublist.trans (hjudged.trans (List.sublist_append_left _ _))

end Slot

/-! ## Summaries -/

/-- Further edges, and resources behind the others, do not take back what has passed: the slots that
have passed are still there, in the same order and with the same findings. -/
theorem assessFramework_of_extends (hgh : h.Extends g) (filter : ResourceFilter)
    (framework : Framework) :
    ∃ (before behind : List Slot) (s t : Summary),
      before.Perm (Slot.all (Catalog.standard framework) (g.query filter)) ∧
      behind.Perm (Slot.all (Catalog.standard framework) (h.query filter)) ∧
      assessFramework Catalog.standard g.source filter framework = .ok s ∧
      s.findings = before.map (Slot.finding g.source) ∧
      assessFramework Catalog.standard h.source filter framework = .ok t ∧
      t.findings = behind.map (Slot.finding h.source) ∧
      (before.filter fun slot => (slot.finding g.source).status = .pass).Sublist behind ∧
      ∀ slot ∈ before, (slot.finding g.source).status = .pass →
        slot.finding h.source = slot.finding g.source := by
  have hbefore := Slot.perm_arranged (Catalog.standard framework) (g.query filter)
  refine ⟨Slot.arranged (Catalog.standard framework) (g.query filter),
    Slot.arranged (Catalog.standard framework) (h.query filter),
    summarise Catalog.standard g.source (g.query filter) framework,
    summarise Catalog.standard h.source (h.query filter) framework,
    hbefore, Slot.perm_arranged _ _, rfl, Slot.findings_eq_map_arranged _ _ _, rfl,
    Slot.findings_eq_map_arranged _ _ _, ?_, fun slot hslot hpass => ?_⟩
  · exact Slot.filter_arranged_sublist (fun _ => rfl) _ (hgh.query_sublist filter)
  · have hcontrol := Slot.control_mem_of_mem_all (hbefore.mem_iff.mp hslot)
    exact finding_eq_of_pass hgh (Catalog.keepsPasses_of_mem_standard hcontrol) hpass

/-- A key that the edge to it has been waiting for, and a public copy of the database with the same
id. -/
theorem assessFramework_of_extends_key :
    let db := Resource.new "db" "RDS_Instance" "aws"
    let g : Graph := { resources := [db], edges := [⟨"db", "key", " Encrypted_By"⟩] }
    let h := ((g.addResource (.new "key" "kms_key" "aws")).addResource
      (db.withMetadata "public" (.bool true))).addEdge ⟨"db", "key", "reads"⟩
    h.Extends g ∧ ∃ (s t : Summary) (f : Finding),
      assessFramework Catalog.standard g.source .all .soc2 = .ok s ∧ f ∈ s.findings ∧
      assessFramework Catalog.standard h.source .all .soc2 = .ok t ∧ f ∈ t.findings ∧
      f.controlId = "SOC2-CC6.1-ENC" ∧ f.resourceId = "db" ∧ f.status = .pass := by
  intro db g h
  have hgh : h.Extends g :=
    (Graph.extends_addEdge _ _).trans ((Graph.extends_addResource _ _).trans
      (Graph.extends_addResource _ _))
  obtain ⟨before, behind, s, t, hbefore, -, hs, hsfindings, ht, htfindings, hsub, hfinding⟩ :=
    assessFramework_of_extends hgh .all .soc2
  let encryption := (Catalog.standard .soc2).head (by decide)
  let slot : Slot := ⟨encryption, some db⟩
  have hslot : slot ∈ before := by
    refine hbefore.mem_iff.mpr (Slot.mem_all_some.mpr ⟨List.head_mem _, ?_, ?_⟩)
    · exact List.mem_cons_self
    · decide
  have hpass : (slot.finding g.source).status = .pass := by
    rfl
  have hslot' : slot ∈ behind :=
    hsub.subset (List.mem_filter.mpr ⟨hslot, decide_eq_true hpass⟩)
  refine ⟨hgh, s, t, slot.finding g.source, hs, ?_, ht, ?_, rfl, rfl, hpass⟩
  · rw [hsfindings]
    exact List.mem_map_of_mem hslot
  · rw [htfindings, ← hfinding slot hslot hpass]
    exact List.mem_map_of_mem hslot'

end Compliance

end Guardrail
