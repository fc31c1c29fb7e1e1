import Guardrail.Compliance.Catalog
import Mathlib.Data.List.Perm.Basic

/-!
# Verdicts and the order of relationships

A control that asks for a safeguard or for tags looks for one relationship or one neighbour that
will do. In which order they stand does not matter to it.
-/

namespace Guardrail.Compliance

/-- Two contexts of one resource with the same edges and neighbours, in whatever order. -/
structure Context.Alike (ctx ctx' : Context) : Prop where
  resource : ctx.resource = ctx'.resource
  edges : ctx.edges.Perm ctx'.edges
  neighbours : ctx.neighbours.Perm ctx'.neighbours

/-- The control judges contexts that are alike in the same way. -/
def Control.IsSteady (c : Control) : Prop :=
  ∀ ctx ctx' : Context, ctx.Alike ctx' → c.judge ctx = c.judge ctx'

namespace Context

variable {ctx ctx' : Context}

/-! ## What a context has from its resource -/

theorem tag?_eq (h : ctx.resource = ctx'.resource) : ctx.tag? = ctx'.tag? := by
  funext key
  rw [tag?, h, tag?]

theorem attributes_eq (h : ctx.resource = ctx'.resource) : ctx.attributes = ctx'.attributes := by
  have hattribute : ctx.attribute? = ctx'.attribute? := by
    funext key
    rw [attribute?, h, attribute?]
  funext keys
  rw [attributes, hattribute, attributes]

theorem reaches_eq (h : ctx.resource = ctx'.resource) : ctx.reaches = ctx'.reaches := by
  funext t
  simp only [reaches, number?, attributes_eq h]

theorem tagPasses_eq (h : ctx.resource = ctx'.resource) : ctx.tagPasses = ctx'.tagPasses := by
  funext key test
  simp only [tagPasses, tag?_eq h]

theorem judgeTags_eq (h : ctx.resource = ctx'.resource) : judgeTags ctx = judgeTags ctx' := by
  have hcarries : ctx.carries = ctx'.carries := by
    funext tag
    rw [carries, tag?_eq h, carries]
  have hmissing : ctx.missingTags = ctx'.missingTags := by
    funext tags
    rw [missingTags, hcarries, missingTags]
  have hall : ctx.carriesAll = ctx'.carriesAll := by
    funext tags
    rw [carriesAll, hcarries, carriesAll]
  have hany : ctx.carriesAny = ctx'.carriesAny := by
    funext tags
    rw [carriesAny, hcarries, carriesAny]
  rw [judgeTags, hmissing, hall, hany, h, judgeTags]

/-- A demand asks a context for nothing but its resource, its relationships and its neighbours. -/
theorem judge_congr (hresource : ctx.resource = ctx'.resource) (hedge : ctx.hasEdge = ctx'.hasEdge)
    (hneighbour : ctx.hasNeighbour = ctx'.hasNeighbour) (d : Demand) :
    d.judge ctx = d.judge ctx' := by
  cases d with
  | safeguard s =>
      have hholds : s.holds ctx = s.holds ctx' := by
        simp only [Safeguard.holds, gives, flag, present, attributes_eq hresource,
          reaches_eq hresource, hedge, hneighbour, tagPasses_eq hresource]
      rw [Demand.judge, Safeguard.judge, hholds, hresource, Demand.judge, Safeguard.judge]
  | tags => exact judgeTags_eq hresource

namespace Alike

theorem hasEdge_eq (h : ctx.Alike ctx') : ctx.hasEdge = ctx'.hasEdge := by
  funext kind
  rw [Bool.eq_iff_iff, hasEdge_iff, hasEdge_iff]
  simp only [h.edges.mem_iff]

theorem hasNeighbour_eq (h : ctx.Alike ctx') : ctx.hasNeighbour = ctx'.hasNeighbour := by
  funext fragment
  exact h.neighbours.any_eq

theorem judge_eq (h : ctx.Alike ctx') (d : Demand) : d.judge ctx = d.judge ctx' :=
  judge_congr h.resource h.hasEdge_eq h.hasNeighbour_eq d

end Alike

end Context

namespace Catalog

theorem exists_judge_control (framework : Framework) (code clause title description : String)
    (severity : Severity) (kinds : List String) (demand : Demand) :
    ∃ d : Demand, ∀ ctx,
      (control framework code clause title description severity kinds demand).judge ctx =
        .ok (d.judge ctx) :=
  ⟨demand, fun _ => rfl⟩

/-- A control of a catalog judges by what it asks for. -/
theorem exists_judge_of_mem_standard {framework : Framework} {c : Control}
    (hc : c ∈ standard framework) : ∃ d : Demand, ∀ ctx, c.judge ctx = .ok (d.judge ctx) := by
  revert c
  cases framework <;>
    simp only [standard, soc2, cis, hipaa, pciDss, List.forall_mem_cons, exists_judge_control,
      List.not_mem_nil, IsEmpty.forall_iff, implies_true, and_self]

theorem isSteady_of_mem_standard {framework : Framework} {c : Control}
    (hc : c ∈ standard framework) : c.IsSteady := by
  obtain ⟨d, hd⟩ := exists_judge_of_mem_standard hc
  intro ctx ctx' h
  rw [hd, hd, h.judge_eq]

theorem nodup_id_standard (framework : Framework) :
    ((standard framework).map Control.id).Nodup := by
  cases framework <;> decide +kernel

end Catalog

end Guardrail.Compliance
