import Guardrail.Proofs.Compliance.Relationships
import Guardrail.Proofs.Compliance.Signals
import Guardrail.Proofs.Lists

/-!
# What surrounds a resource

The context of a resource holds the edges that stand at it and the resources at their other ends,
each once and in the order in which the graph first leads to them. Kinds of relationships may be
spelled in another way without a change to any finding.
-/

namespace Guardrail

/-- An edge between two resources, in either direction. -/
def Edge.Joins (e : Edge) (a b : String) : Prop :=
  e.source = a ∧ e.target = b ∨ e.source = b ∧ e.target = a

instance (e : Edge) (a b : String) : Decidable (e.Joins a b) :=
  inferInstanceAs (Decidable (e.source = a ∧ e.target = b ∨ e.source = b ∧ e.target = a))

theorem Edge.filter_otherEnd?_eq_some_iff {e : Edge} {id other : String} :
    (e.otherEnd? id).filter (· ≠ id) = some other ↔ other ≠ id ∧ e.Joins id other := by
  rw [Option.filter_eq_some_iff, decide_eq_true_iff, and_comm]
  refine and_congr_right fun hne => ?_
  unfold otherEnd? Joins
  by_cases hs : e.source = id
  · simp [hs, Ne.symm hne]
  · by_cases ht : e.target = id <;> simp [hs, ht]

namespace Graph

/-- The place of the first edge between two resources among the edges of a graph. -/
def firstEdge (g : Graph) (a b : String) : Nat :=
  g.edges.findIdx fun e => decide (e.Joins a b)

/-- The resource is the first one that the graph lists with its id. -/
def IsFirst (g : Graph) (r : Resource) : Prop :=
  ∃ front back, g.resources = front ++ r :: back ∧ ∀ other ∈ front, other.id ≠ r.id

variable {g : Graph} {id : String} {r : Resource}

theorem find?_eq_some_iff_isFirst : g.find? id = some r ↔ r.id = id ∧ g.IsFirst r := by
  rw [find?, List.find?_eq_some_iff_append, decide_eq_true_iff]
  refine and_congr_right fun hid => ?_
  simp only [IsFirst, hid, Bool.not_eq_true', decide_eq_false_iff_not]

theorem IsFirst.mem (h : g.IsFirst r) : r ∈ g.resources := by
  obtain ⟨front, back, hresources, -⟩ := h
  rw [hresources]
  exact List.mem_append_right front List.mem_cons_self

theorem IsFirst.eq_of_id_eq {r' : Resource} (h : g.IsFirst r) (h' : g.IsFirst r')
    (hid : r.id = r'.id) : r = r' :=
  Option.some.inj ((find?_eq_some_iff_isFirst.mpr ⟨hid, h⟩).symm.trans
    (find?_eq_some_iff_isFirst.mpr ⟨rfl, h'⟩))

theorem exists_isFirst (h : r ∈ g.resources) : ∃ first, g.IsFirst first ∧ first.id = r.id := by
  have hsome : (g.find? r.id).isSome := List.find?_isSome.mpr ⟨r, h, decide_eq_true rfl⟩
  obtain ⟨first, hfirst⟩ := Option.isSome_iff_exists.mp hsome
  exact ⟨first, (find?_eq_some_iff_isFirst.mp hfirst).symm⟩

end Graph

namespace Compliance

namespace Context

variable {g : Graph} {r : Resource} {ctx ctx' : Context}

/-! ## Neighbours -/

theorem neighbourIds_edgesOf (g : Graph) (id : String) :
    neighbourIds id (g.edgesOf id .both) =
      (g.edges.filterMap fun e => (e.otherEnd? id).filter (· ≠ id)).eraseDups := by
  have hother : ∀ e : Edge,
      (if e.touches id .both = true then e.otherEnd? id else none) = e.otherEnd? id := by
    intro e
    split
    · rfl
    next h =>
      rw [← Edge.isSome_otherEnd?, Option.not_isSome_iff_eq_none] at h
      rw [h]
  simp only [neighbourIds, Graph.edgesOf, List.filterMap_filter, List.filter_filterMap, hother]

theorem mem_neighbourIds_edgesOf {id other : String} :
    other ∈ neighbourIds id (g.edgesOf id .both) ↔
      other ≠ id ∧ ∃ e ∈ g.edges, e.Joins id other := by
  simp only [neighbourIds_edgesOf, List.mem_eraseDups, List.mem_filterMap,
    Edge.filter_otherEnd?_eq_some_iff]
  constructor
  · rintro ⟨e, he, hne, hjoins⟩
    exact ⟨hne, e, he, hjoins⟩
  · rintro ⟨hne, e, he, hjoins⟩
    exact ⟨e, he, hne, hjoins⟩

theorem pairwise_neighbourIds (g : Graph) (id : String) :
    (neighbourIds id (g.edgesOf id .both)).Pairwise fun a b =>
      g.firstEdge id a < g.firstEdge id b := by
  have hplace : ∀ other ∈ neighbourIds id (g.edgesOf id .both),
      g.edges.findIdx (fun e => decide ((e.otherEnd? id).filter (· ≠ id) = some other)) =
        g.firstEdge id other := by
    intro other hother
    have hne := (mem_neighbourIds_edgesOf.mp hother).1
    simp only [Graph.firstEdge, Edge.filter_otherEnd?_eq_some_iff, hne, ne_eq, not_false_eq_true,
      true_and]
  have hpairs := pairwise_findIdx_eraseDups (fun e => (e.otherEnd? id).filter (· ≠ id)) g.edges
  rw [← neighbourIds_edgesOf] at hpairs
  refine hpairs.imp_of_mem fun ha hb hlt => ?_
  rwa [hplace _ ha, hplace _ hb] at hlt

/-! ## Contexts -/

/-- What the context of a resource in a graph has to hold. -/
structure Surrounds (ctx : Context) (g : Graph) (r : Resource) : Prop where
  resource : ctx.resource = r
  /-- Every edge that leaves the resource or leads to it, in the order of the graph. -/
  edges : ctx.edges = g.edges.filter fun e => e.source = r.id ∨ e.target = r.id
  /-- There is a neighbour for every other end of an edge that the graph lists. -/
  found : ∀ id, id ∈ ctx.neighbours.map Resource.id ↔
    id ≠ r.id ∧ (∃ e ∈ g.edges, e.Joins r.id id) ∧ ∃ other ∈ g.resources, other.id = id
  first : ∀ other ∈ ctx.neighbours, g.IsFirst other
  distinct : (ctx.neighbours.map Resource.id).Nodup
  ordered : ctx.neighbours.Pairwise fun a b => g.firstEdge r.id a.id < g.firstEdge r.id b.id
  /-- The kinds of the edges in their normal spelling, each once. -/
  kinds : ∀ kind, kind ∈ ctx.relationships ↔ ∃ e ∈ ctx.edges, normalKind e.relationship = kind
  ascending : ctx.relationships.Pairwise (· < ·)

theorem pairwise_neighbours_within (g : Graph) (r : Resource) :
    (within g r).neighbours.Pairwise fun a b =>
      g.firstEdge r.id a.id < g.firstEdge r.id b.id := by
  refine List.pairwise_filterMap.mpr ((pairwise_neighbourIds g r.id).imp ?_)
  intro a b hlt other hother other' hother'
  rwa [(Graph.find?_eq_some_iff_isFirst.mp hother).1,
    (Graph.find?_eq_some_iff_isFirst.mp hother').1]

theorem mem_neighbours_within {other : Resource} :
    other ∈ (within g r).neighbours ↔
      other.id ≠ r.id ∧ (∃ e ∈ g.edges, e.Joins r.id other.id) ∧ g.IsFirst other := by
  simp only [within, List.mem_filterMap, mem_neighbourIds_edgesOf, Graph.find?_eq_some_iff_isFirst]
  constructor
  · rintro ⟨id, ⟨hne, hjoins⟩, rfl, hfirst⟩
    exact ⟨hne, hjoins, hfirst⟩
  · rintro ⟨hne, hjoins, hfirst⟩
    exact ⟨other.id, ⟨hne, hjoins⟩, rfl, hfirst⟩

theorem surrounds_within (g : Graph) (r : Resource) : (within g r).Surrounds g r where
  resource := rfl
  edges := List.filter_congr fun e _ => (Bool.decide_or _ _).symm
  found := by
    intro id
    rw [List.mem_map]
    constructor
    · rintro ⟨other, hother, rfl⟩
      obtain ⟨hne, hjoins, hfirst⟩ := mem_neighbours_within.mp hother
      exact ⟨hne, hjoins, other, hfirst.mem, rfl⟩
    · rintro ⟨hne, hjoins, other, hother, rfl⟩
      obtain ⟨first, hfirst, hid⟩ := Graph.exists_isFirst hother
      exact ⟨first, mem_neighbours_within.mpr ⟨hid ▸ hne, hid ▸ hjoins, hfirst⟩, hid⟩
  first := fun other hother => (mem_neighbours_within.mp hother).2.2
  distinct := by
    refine List.pairwise_map.mpr ((pairwise_neighbours_within g r).imp fun hlt hid => ?_)
    rw [hid] at hlt
    exact lt_irrefl _ hlt
  ordered := pairwise_neighbours_within g r
  kinds := by
    intro kind
    rw [relationships, Text.mem_nameSet, List.mem_map]
  ascending := Text.pairwise_nameSet _

namespace Surrounds

theorem mem_neighbours_iff (h : ctx.Surrounds g r) {other : Resource} :
    other ∈ ctx.neighbours ↔
      other.id ≠ r.id ∧ (∃ e ∈ g.edges, e.Joins r.id other.id) ∧ g.IsFirst other := by
  constructor
  · intro hother
    obtain ⟨hne, hjoins, -⟩ := (h.found other.id).mp (List.mem_map_of_mem hother)
    exact ⟨hne, hjoins, h.first other hother⟩
  · rintro ⟨hne, hjoins, hfirst⟩
    have hfound := (h.found other.id).mpr ⟨hne, hjoins, other, hfirst.mem, rfl⟩
    obtain ⟨neighbour, hneighbour, hid⟩ := List.mem_map.mp hfound
    obtain rfl := (h.first neighbour hneighbour).eq_of_id_eq hfirst hid
    exact hneighbour

/-- There is no second context with what the first one has to hold. -/
theorem unique (h : ctx.Surrounds g r) (h' : ctx'.Surrounds g r) : ctx = ctx' := by
  have hperm : ctx.neighbours.Perm ctx'.neighbours := by
    rw [List.perm_ext_iff_of_nodup h.distinct.of_map h'.distinct.of_map]
    exact fun other => h.mem_neighbours_iff.trans h'.mem_neighbours_iff.symm
  have hneighbours : ctx.neighbours = ctx'.neighbours := by
    refine hperm.eq_of_pairwise (fun a b _ _ hab hba => ?_) h.ordered h'.ordered
    exact absurd hab (lt_asymm hba)
  obtain ⟨resource, edges, neighbours⟩ := ctx
  obtain ⟨resource', edges', neighbours'⟩ := ctx'
  obtain rfl : resource = resource' := h.resource.trans h'.resource.symm
  obtain rfl : edges = edges' := h.edges.trans h'.edges.symm
  obtain rfl : neighbours = neighbours' := hneighbours
  rfl

end Surrounds

end Context

end Compliance

/-! ## Other spellings of kinds -/

open Compliance (SameKind normalKind sameKind_iff)

/-- The edge between the same resources with a kind that is spelled in another way. -/
structure Edge.Relabels (e' e : Edge) : Prop where
  source : e'.source = e.source
  target : e'.target = e.target
  relationship : SameKind e'.relationship e.relationship

/-- The graph with the kinds of edges spelled in other ways. -/
structure Graph.Relabels (h g : Graph) : Prop where
  resources : h.resources = g.resources
  edges : List.Forall₂ Edge.Relabels h.edges g.edges

/-- The edge with its kind in normal spelling. -/
def Edge.normal (e : Edge) : Edge :=
  { e with relationship := normalKind e.relationship }

theorem Edge.Relabels.normal_eq {e' e : Edge} (h : e'.Relabels e) : e'.normal = e.normal := by
  rw [normal, h.source, h.target, sameKind_iff.mp h.relationship, normal]

namespace Graph

variable {g h : Graph}

theorem Relabels.map_normal_edges (hgh : h.Relabels g) :
    h.edges.map Edge.normal = g.edges.map Edge.normal := by
  rw [← List.forall₂_eq_eq_eq, List.forall₂_map_left_iff, List.forall₂_map_right_iff]
  exact hgh.edges.imp fun _ _ he => he.normal_eq

/-- Kinds do not decide which edges stand at a resource. -/
theorem map_normal_edgesOf (g : Graph) (id : String) (direction : Direction) :
    (g.edgesOf id direction).map Edge.normal =
      (g.edges.map Edge.normal).filter (·.touches id direction) := by
  have htouches : (fun e : Edge => e.touches id direction) ∘ Edge.normal =
      fun e => e.touches id direction := by
    cases direction <;> rfl
  rw [List.filter_map, htouches, edgesOf]

end Graph

namespace Compliance

open Context

variable {g h : Graph}

theorem neighbourIds_map_normal (id : String) (edges : List Edge) :
    neighbourIds id (edges.map Edge.normal) = neighbourIds id edges := by
  rw [neighbourIds, List.filterMap_map]
  rfl

theorem relationships_eq_map_normal (ctx : Context) :
    ctx.relationships = Text.nameSet ((ctx.edges.map Edge.normal).map Edge.relationship) := by
  rw [relationships, List.map_map]
  rfl

theorem judge_within_of_relabels (hgh : h.Relabels g) (r : Resource) (d : Demand) :
    d.judge (within h r) = d.judge (within g r) := by
  have hedges : (within h r).edges.map Edge.normal = (within g r).edges.map Edge.normal := by
    simp only [within, Graph.map_normal_edgesOf, hgh.map_normal_edges]
  have hfind : h.find? = g.find? := by
    funext id
    rw [Graph.find?, hgh.resources, Graph.find?]
  have hneighbours : (within h r).neighbours = (within g r).neighbours := by
    have hids : neighbourIds r.id (within h r).edges = neighbourIds r.id (within g r).edges := by
      rw [← neighbourIds_map_normal, hedges, neighbourIds_map_normal]
    exact congrArg₂ List.filterMap hfind hids
  have hresource : (within h r).resource = (within g r).resource := rfl
  refine judge_congr hresource ?_ (hasNeighbour_congr hneighbours) d
  funext kind
  rw [hasEdge, hasEdge, relationships_eq_map_normal, relationships_eq_map_normal, hedges]

theorem summarise_eq_of_relabels (hgh : h.Relabels g) (rs : List Resource)
    (framework : Framework) :
    summarise Catalog.standard h.source rs framework =
      summarise Catalog.standard g.source rs framework := by
  have hfindings : findings h.source (Catalog.standard framework) rs =
      findings g.source (Catalog.standard framework) rs := by
    refine findings_eq_of_judge_eq (fun c hc r => ?_) rs
    obtain ⟨d, hd⟩ := Catalog.exists_judge_of_mem_standard hc
    rw [hd, hd, judge_within_of_relabels hgh]
  rw [summarise, hfindings, summarise]

/-- The context of a resource is built without failure and holds what surrounds the resource, and
nothing else does. Other spellings of the kinds of edges leave every summary as it is. -/
theorem build_surroundings (g : Graph) (r : Resource) :
    (∃ ctx, Context.build g.source r = .ok ctx ∧ ctx.Surrounds g r ∧
      ∀ ctx' : Context, ctx'.Surrounds g r → ctx' = ctx) ∧
    ∀ h : Graph, h.Relabels g → ∀ (filter : ResourceFilter) (framework : Framework), ∃ s,
      assessFramework Catalog.standard g.source filter framework = .ok s ∧
        assessFramework Catalog.standard h.source filter framework = .ok s := by
  refine ⟨⟨within g r, build_source g r, surrounds_within g r, fun _ hctx =>
    hctx.unique (surrounds_within g r)⟩, fun h hgh filter framework => ?_⟩
  have hquery : h.query filter = g.query filter := by
    rw [Graph.query, hgh.resources, Graph.query]
  refine ⟨summarise Catalog.standard g.source (g.query filter) framework, rfl, ?_⟩
  rw [← summarise_eq_of_relabels hgh, ← hquery]
  rfl

/-- A database with two edges to its key, one to itself and one to a bucket that is not listed, and
a second resource with the id of the key. -/
theorem build_beside_parallel_edges :
    let db := Resource.new "db" "rds_instance" "aws"
    let resources : List Resource :=
      [.new "vpc" "vpc" "aws", db, .new "key" "kms_key" "aws", .new "key" "ssh_key" "aws"]
    let g : Graph :=
      { resources
        edges := [⟨"db", "key", "ENCRYPTED_BY"⟩, ⟨"db", "db", "replicates-to"⟩,
          ⟨"vpc", "db", "contains"⟩, ⟨"key", "db", "used-by"⟩, ⟨"db", "ghost", "logs-to"⟩] }
    let h : Graph :=
      { resources
        edges := [⟨"db", "key", " encrypted-by"⟩, ⟨"db", "db", "Replicates_To"⟩,
          ⟨"vpc", "db", "contains\t"⟩, ⟨"key", "db", "used_by"⟩, ⟨"db", "ghost", "logs-to"⟩] }
    h.Relabels g ∧
      (∃ ctx, Context.build g.source db = .ok ctx ∧ ctx.Surrounds g db ∧ ctx.edges = g.edges ∧
        ctx.neighbours.map (fun r => (r.id, r.kind)) = [("key", "kms_key"), ("vpc", "vpc")]) ∧
      ∃ s, assessFramework Catalog.standard g.source .all .soc2 = .ok s ∧
        assessFramework Catalog.standard h.source .all .soc2 = .ok s := by
  intro db resources g h
  have hkind : ∀ {s t : String}, normalKind s = normalKind t → SameKind s t := sameKind_iff.mpr
  have hgh : h.Relabels g := by
    refine ⟨rfl, .cons ⟨rfl, rfl, hkind ?_⟩ (.cons ⟨rfl, rfl, hkind ?_⟩ (.cons ⟨rfl, rfl, hkind ?_⟩
      (.cons ⟨rfl, rfl, hkind ?_⟩ (.cons ⟨rfl, rfl, hkind ?_⟩ .nil))))⟩
    all_goals decide
  obtain ⟨⟨ctx, hctx, hsurrounds, hunique⟩, hsummary⟩ := build_surroundings g db
  obtain rfl := hunique _ (surrounds_within g db)
  refine ⟨hgh, ⟨_, hctx, hsurrounds, ?_, ?_⟩, hsummary h hgh .all .soc2⟩
  · decide +kernel
  · decide +kernel

end Compliance

end Guardrail
