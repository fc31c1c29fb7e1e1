import Guardrail.Proofs.Compliance.Ranking
import Guardrail.Proofs.Compliance.Slots
import Guardrail.Proofs.Compliance.Steadiness
import Guardrail.Proofs.Lists

/-!
# The order of storage

A report does not depend on the order in which a graph stores its resources and its edges, as long
as no two resources have one id.
-/

namespace Guardrail

namespace Graph

/-- Two graphs with the same resources and the same edges, in whatever order. -/
structure Rearranges (h g : Graph) : Prop where
  resources : h.resources.Perm g.resources
  edges : h.edges.Perm g.edges

variable {g h : Graph}

theorem find?_eq_some_iff (hids : (g.resources.map Resource.id).Nodup) {id : String}
    {r : Resource} : g.find? id = some r ↔ r ∈ g.resources ∧ r.id = id := by
  constructor
  · intro hfind
    exact ⟨List.mem_of_find?_eq_some hfind, by simpa using List.find?_some hfind⟩
  · rintro ⟨hr, rfl⟩
    have hsome : (g.find? r.id).isSome := List.find?_isSome.mpr ⟨r, hr, decide_eq_true rfl⟩
    obtain ⟨s, hs⟩ := Option.isSome_iff_exists.mp hsome
    have hid : s.id = r.id := by simpa using List.find?_some hs
    rw [hs, List.inj_on_of_nodup_map hids (List.mem_of_find?_eq_some hs) hr hid]

namespace Rearranges

theorem nodup_id (hgh : h.Rearranges g) (hids : (g.resources.map Resource.id).Nodup) :
    (h.resources.map Resource.id).Nodup :=
  (hgh.resources.map Resource.id).nodup_iff.mpr hids

theorem find?_eq (hgh : h.Rearranges g) (hids : (g.resources.map Resource.id).Nodup) :
    h.find? = g.find? := by
  funext id
  ext r
  rw [find?_eq_some_iff (hgh.nodup_id hids), find?_eq_some_iff hids, hgh.resources.mem_iff]

theorem perm_query (hgh : h.Rearranges g) (filter : ResourceFilter) :
    (h.query filter).Perm (g.query filter) :=
  hgh.resources.filter _

theorem perm_edgesOf (hgh : h.Rearranges g) (id : String) (direction : Direction) :
    (h.edgesOf id direction).Perm (g.edgesOf id direction) :=
  hgh.edges.filter _

end Rearranges

theorem nodup_id_query (hids : (g.resources.map Resource.id).Nodup) (filter : ResourceFilter) :
    ((g.query filter).map Resource.id).Nodup :=
  hids.sublist (List.filter_sublist.map _)

end Graph

namespace Compliance

/-! ## Findings -/

/-- The context of a resource in a graph whose lookups do not fail. -/
def Context.within (g : Graph) (r : Resource) : Context :=
  let edges := g.edgesOf r.id .both
  { resource := r, edges, neighbours := (neighbourIds r.id edges).filterMap g.find? }

theorem build_source (g : Graph) (r : Resource) :
    Context.build g.source r = .ok (Context.within g r) := by
  have hneighbours : ∀ ids : List String,
      ids.mapM g.source.find? = .ok (ids.map g.find?) := fun ids => List.mapM_pure
  simp only [Context.build, Graph.source, bind, Except.bind, pure, Except.pure] at hneighbours ⊢
  rw [hneighbours]
  simp [Context.within, List.filterMap_map]

variable {g h : Graph}

theorem alike_within (hgh : h.Rearranges g) (hids : (g.resources.map Resource.id).Nodup)
    (r : Resource) : (Context.within h r).Alike (Context.within g r) := by
  have hedges := hgh.perm_edgesOf r.id .both
  have hneighbours : (Context.neighbourIds r.id (h.edgesOf r.id .both)).Perm
      (Context.neighbourIds r.id (g.edgesOf r.id .both)) :=
    perm_eraseDups ((hedges.filterMap _).filter _)
  refine ⟨rfl, hedges, ?_⟩
  simp only [Context.within, hgh.find?_eq hids]
  exact hneighbours.filterMap _

theorem examine_source (g : Graph) (c : Control) (r : Resource) :
    examine g.source c r =
      match c.judge (Context.within g r) with
      | .error crash => .ofTrouble c r crash.message
      | .ok verdict => .new c r verdict := by
  cases hv : c.judge (Context.within g r) <;> simp only [examine, build_source, hv]

theorem finding_eq_of_judge_eq {s : Slot}
    (hjudge : ∀ r, s.control.judge (Context.within h r) = s.control.judge (Context.within g r)) :
    s.finding h.source = s.finding g.source := by
  obtain ⟨c, r?⟩ := s
  cases r? with
  | none => rfl
  | some r =>
      have hr : c.judge (Context.within h r) = c.judge (Context.within g r) := hjudge r
      simp only [Slot.finding, examine_source, hr]

/-! ## Slots -/

namespace Slot

variable {controls : List Control} {rs ss : List Resource}

theorem perm_judged_append_vacant (controls : List Control) (h : ss.Perm rs) :
    (judged controls ss ++ vacant controls ss).Perm
      (judged controls rs ++ vacant controls rs) := by
  have hscope : ∀ c : Control, (c.scope ss).Perm (c.scope rs) := fun c => h.filter _
  have hjudged : (judged controls ss).Perm (judged controls rs) :=
    List.Perm.flatMap_left _ fun c _ => (hscope c).map _
  have hvacant : vacant controls ss = vacant controls rs := by
    simp only [vacant, (hscope _).isEmpty_eq]
  rw [hvacant]
  exact hjudged.append_right _

theorem control_mem_of_mem_all {s : Slot} (h : s ∈ all controls rs) : s.control ∈ controls := by
  obtain ⟨c, r?⟩ := s
  cases r? with
  | none => exact (mem_all_none.mp h).1
  | some r => exact (mem_all_some.mp h).1

/-- Slots are told apart by their keys if controls and resources are by their ids. -/
theorem eq_of_key_eq (hcontrols : (controls.map Control.id).Nodup)
    (hresources : (rs.map Resource.id).Nodup) {a b : Slot} (ha : a ∈ all controls rs)
    (hb : b ∈ all controls rs) (h : a.key = b.key) : a = b := by
  have hkey : a.control.id = b.control.id ∧ a.resourceId = b.resourceId := by
    simpa only [key, toLex_inj, Prod.mk.injEq] using h
  have hcontrol : a.control = b.control :=
    List.inj_on_of_nodup_map hcontrols (control_mem_of_mem_all ha) (control_mem_of_mem_all hb)
      hkey.1
  obtain ⟨c, r?⟩ := a
  obtain ⟨d, s?⟩ := b
  obtain rfl : c = d := hcontrol
  cases r? with
  | none =>
      cases s? with
      | none => rfl
      | some s =>
          -- a control with a resource to judge has no slot without one
          obtain ⟨-, hs, hcovers⟩ := mem_all_some.mp hb
          exact absurd hcovers ((mem_all_none.mp ha).2 s hs)
  | some r =>
      obtain ⟨-, hr, hcovers⟩ := mem_all_some.mp ha
      cases s? with
      | none => exact absurd hcovers ((mem_all_none.mp hb).2 r hr)
      | some s =>
          obtain ⟨-, hs, -⟩ := mem_all_some.mp hb
          rw [List.inj_on_of_nodup_map hresources hr hs hkey.2]

theorem arranged_eq_of_perm (hcontrols : (controls.map Control.id).Nodup)
    (hresources : (rs.map Resource.id).Nodup) (h : ss.Perm rs) :
    arranged controls ss = arranged controls rs := by
  refine (mergeSort_eq_of_perm precedes_iff (perm_judged_append_vacant controls h).symm ?_).symm
  intro a ha b hb hab
  have hall := perm_all controls rs
  exact eq_of_key_eq hcontrols hresources (hall.mem_iff.mp ha) (hall.mem_iff.mp hb) hab

end Slot

/-! ## Reports -/

/-- What is found depends on a graph by what its controls say of the contexts in it. -/
theorem findings_eq_of_judge_eq {controls : List Control}
    (hjudge : ∀ c ∈ controls, ∀ r, c.judge (Context.within h r) = c.judge (Context.within g r))
    (rs : List Resource) : findings h.source controls rs = findings g.source controls rs := by
  rw [Slot.findings_eq_map_arranged, Slot.findings_eq_map_arranged]
  refine List.map_congr_left fun s hs => finding_eq_of_judge_eq (hjudge s.control ?_)
  exact Slot.control_mem_of_mem_all ((Slot.perm_arranged controls rs).mem_iff.mp hs)

theorem summarise_eq_of_rearranges {cs : Catalogs} {framework : Framework}
    (hsteady : ∀ c ∈ cs framework, c.IsSteady) (hcontrols : ((cs framework).map Control.id).Nodup)
    (hgh : h.Rearranges g) (hids : (g.resources.map Resource.id).Nodup) (filter : ResourceFilter) :
    summarise cs h.source (h.query filter) framework =
      summarise cs g.source (g.query filter) framework := by
  have hslots : findings h.source (cs framework) (h.query filter) =
      findings h.source (cs framework) (g.query filter) := by
    rw [Slot.findings_eq_map_arranged, Slot.findings_eq_map_arranged,
      Slot.arranged_eq_of_perm hcontrols (Graph.nodup_id_query hids filter)
        (hgh.perm_query filter)]
  have hfindings : findings h.source (cs framework) (g.query filter) =
      findings g.source (cs framework) (g.query filter) :=
    findings_eq_of_judge_eq (fun c hc r => hsteady c hc _ _ (alike_within hgh hids r)) _
  rw [summarise, hslots, hfindings, summarise]

/-- The same resources and edges in another order give the same report. Its ranking does not depend
on the order in which the failures by resource are listed either. -/
theorem assess_rearranged (hgh : h.Rearranges g) (hids : (g.resources.map Resource.id).Nodup)
    (filter : ResourceFilter) (frameworks : List Framework) :
    ∃ report, assess Catalog.standard g.source filter frameworks = .ok report ∧
      assess Catalog.standard h.source filter frameworks = .ok report ∧
      ∀ listed : List CriticalResource, listed.Perm (failuresByResource report.summaries) →
        (listed.filter (·.isCritical)).mergeSort CriticalResource.precedes = report.critical := by
  have hsummaries : frameworks.map (summarise Catalog.standard h.source (h.query filter)) =
      frameworks.map (summarise Catalog.standard g.source (g.query filter)) :=
    List.map_congr_left fun framework _ =>
      summarise_eq_of_rearranges (fun _ hc => Catalog.isSteady_of_mem_standard hc)
        (Catalog.nodup_id_standard framework) hgh hids filter
  have hlength := (hgh.perm_query filter).length_eq
  refine ⟨.new (frameworks.map (summarise Catalog.standard g.source (g.query filter)))
    (g.query filter).length, rfl, ?_, fun listed hlisted => rank_eq_of_perm hlisted⟩
  rw [← hsummaries, ← hlength]
  rfl

/-- Two users who share a group, and a database with two edges to its key. -/
theorem assess_of_two_orders :
    let resources : List Resource :=
      [.new "u2" "iam_user" "aws", .new "db" "rds_instance" "aws", .new "u1" "iam_user" "aws",
        .new "k" "kms_key" "aws"]
    let edges : List Edge :=
      [⟨"db", "k", "encrypted-by"⟩, ⟨"u1", "staff", "member-of"⟩, ⟨"k", "db", "Used_By"⟩,
        ⟨"u2", "u1", "manages"⟩]
    let g : Graph := { resources, edges }
    let h : Graph := { resources := resources.reverse, edges := edges.reverse }
    h.Rearranges g ∧ (g.resources.map Resource.id).Nodup ∧ ∃ report,
      assess Catalog.standard g.source .all [.cis, .soc2] = .ok report ∧
        assess Catalog.standard h.source .all [.cis, .soc2] = .ok report ∧
        report.summaries.map (·.framework) = [.cis, .soc2] ∧ report.resources = 4 ∧
        ((failuresByResource report.summaries).reverse.filter (·.isCritical)).mergeSort
          CriticalResource.precedes = report.critical := by
  intro resources edges g h
  have hgh : h.Rearranges g := ⟨List.reverse_perm _, List.reverse_perm _⟩
  have hids : (g.resources.map Resource.id).Nodup := by decide
  obtain ⟨report, hg, hh, hrank⟩ := assess_rearranged hgh hids .all [.cis, .soc2]
  refine ⟨hgh, hids, report, hg, hh, ?_, ?_, hrank _ (List.reverse_perm _)⟩
  · obtain rfl := Except.ok.inj hg
    rfl
  · obtain rfl := Except.ok.inj hg
    rfl

end Compliance

end Guardrail
