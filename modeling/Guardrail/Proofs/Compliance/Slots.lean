import Guardrail.Compliance.Assessment
import Guardrail.Proofs.Lists
import Mathlib.Data.Prod.Lex
import Mathlib.Data.String.Basic

/-!
# Slots of an evaluation

A slot is the place of one finding: a control with a resource that it covers, or a control alone if
it covers none. Controls and resources decide which slots there are and in which order; the graph
decides what is found in them.
-/

namespace Guardrail.Compliance

/-- Whether a control covers a resource: one of its types is `*`, or that of the resource up to the
case of letters. -/
def Control.Covers (c : Control) (r : Resource) : Prop :=
  ∃ k ∈ c.kinds, k = "*" ∨ Text.lower k = Text.lower r.kind

instance (c : Control) (r : Resource) : Decidable (c.Covers r) :=
  inferInstanceAs (Decidable (∃ k ∈ c.kinds, k = "*" ∨ Text.lower k = Text.lower r.kind))

theorem Control.appliesTo_iff {c : Control} {r : Resource} :
    c.appliesTo r.kind = true ↔ c.Covers r := by
  simp [appliesTo, Covers]

theorem Control.scope_eq (c : Control) (rs : List Resource) :
    c.scope rs = rs.filter fun r => decide (c.Covers r) := by
  refine List.filter_congr fun r _ => ?_
  rw [Bool.eq_iff_iff, decide_eq_true_iff]
  exact appliesTo_iff

/-- The place of one finding. -/
structure Slot where
  control : Control
  resource? : Option Resource

namespace Slot

/-- The id of the slot's resource, empty if there is none. -/
def resourceId (s : Slot) : String :=
  (s.resource?.map Resource.id).getD ""

/-- What is found in a slot. -/
def finding (graph : GraphSource) (s : Slot) : Finding :=
  match s.resource? with
  | some r => examine graph s.control r
  | none => .vacant s.control

/-- The slots of one control. -/
def ofControl (rs : List Resource) (c : Control) : List Slot :=
  match rs.filter fun r => decide (c.Covers r) with
  | [] => [⟨c, none⟩]
  | covered => covered.map fun r => ⟨c, some r⟩

/-- The slots of several controls. -/
def all (controls : List Control) (rs : List Resource) : List Slot :=
  controls.flatMap (ofControl rs)

/-- The slots with a resource, by controls and then by resources. -/
def judged (controls : List Control) (rs : List Resource) : List Slot :=
  controls.flatMap fun c => (c.scope rs).map fun r => ⟨c, some r⟩

/-- The slots without a resource. -/
def vacant (controls : List Control) (rs : List Resource) : List Slot :=
  (controls.filter fun c => (c.scope rs).isEmpty).map fun c => ⟨c, none⟩

/-! ## Order -/

/-- What slots and their findings are ordered by. -/
def key (s : Slot) : String ×ₗ String :=
  toLex (s.control.id, s.resourceId)

def precedes (a b : Slot) : Bool :=
  decide (a.key ≤ b.key)

theorem precedes_iff (a b : Slot) : a.precedes b = true ↔ a.key ≤ b.key :=
  decide_eq_true_iff

/-- The slots in the order of their findings. -/
def arranged (controls : List Control) (rs : List Resource) : List Slot :=
  (judged controls rs ++ vacant controls rs).mergeSort precedes

end Slot

namespace Finding

def key (f : Finding) : String ×ₗ String :=
  toLex (f.controlId, f.resourceId)

theorem precedes_iff (a b : Finding) : a.precedes b = true ↔ a.key ≤ b.key := by
  simp [precedes, key, Prod.Lex.toLex_le_toLex]

end Finding

/-! ## What a finding has from its slot -/

/-- A finding has the labels of its control and the identity of its resource. -/
structure Finding.BelongsTo (f : Finding) (s : Slot) : Prop where
  controlId : f.controlId = s.control.id
  framework : f.framework = s.control.framework
  clause : f.clause = s.control.clause
  title : f.title = s.control.title
  severity : f.severity = s.control.severity
  resourceId : f.resourceId = s.resourceId
  resourceName : f.resourceName = (s.resource?.map Resource.name).getD ""
  resourceKind : f.resourceKind = (s.resource?.map Resource.kind).getD ""
  /-- Without a resource there is nothing to judge. -/
  vacant : s.resource? = none → f.status = .notApplicable

/-- Every finding about a resource is that of some verdict. -/
theorem exists_verdict (graph : GraphSource) (c : Control) (r : Resource) :
    ∃ v, examine graph c r = .new c r v := by
  unfold examine
  split
  · exact ⟨_, rfl⟩
  · split
    · exact ⟨_, rfl⟩
    · exact ⟨_, rfl⟩

namespace Slot

theorem finding_belongsTo (graph : GraphSource) (s : Slot) : (s.finding graph).BelongsTo s := by
  obtain ⟨c, r?⟩ := s
  cases r? with
  | none => exact ⟨rfl, rfl, rfl, rfl, rfl, rfl, rfl, rfl, fun _ => rfl⟩
  | some r =>
      obtain ⟨v, hv⟩ := exists_verdict graph c r
      have hf : finding graph ⟨c, some r⟩ = .new c r v := hv
      rw [hf]
      exact ⟨rfl, rfl, rfl, rfl, rfl, rfl, rfl, rfl, fun h => nomatch h⟩

theorem key_finding (graph : GraphSource) (s : Slot) : (s.finding graph).key = s.key := by
  have h := s.finding_belongsTo graph
  rw [Finding.key, h.controlId, h.resourceId, key]

/-! ## The slots of an evaluation -/

theorem map_finding_judged (graph : GraphSource) (controls : List Control) (rs : List Resource) :
    (judged controls rs).map (finding graph) =
      controls.flatMap fun c => (c.scope rs).map (examine graph c) := by
  simp only [judged, List.map_flatMap, List.map_map]
  rfl

theorem map_finding_vacant (graph : GraphSource) (controls : List Control) (rs : List Resource) :
    (vacant controls rs).map (finding graph) =
      (controls.filter fun c => (c.scope rs).isEmpty).map Finding.vacant := by
  rw [vacant, List.map_map]
  rfl

/-- An evaluation finds one thing in each slot, and its order is that of the slots. -/
theorem findings_eq_map_arranged (graph : GraphSource) (controls : List Control)
    (rs : List Resource) :
    findings graph controls rs = (arranged controls rs).map (finding graph) := by
  have hsame : ∀ a ∈ judged controls rs ++ vacant controls rs,
      ∀ b ∈ judged controls rs ++ vacant controls rs,
        a.precedes b = (a.finding graph).precedes (b.finding graph) := by
    intro a _ b _
    rw [Bool.eq_iff_iff, precedes_iff, Finding.precedes_iff, key_finding, key_finding]
  rw [arranged, List.map_mergeSort hsame, List.map_append, map_finding_judged, map_finding_vacant]
  rfl

theorem perm_all (controls : List Control) (rs : List Resource) :
    (judged controls rs ++ vacant controls rs).Perm (all controls rs) := by
  have hvacant : vacant controls rs =
      controls.flatMap fun c => if (c.scope rs).isEmpty then [⟨c, none⟩] else [] := by
    induction controls with
    | nil => rfl
    | cons c controls ih =>
        rw [List.flatMap_cons, ← ih, vacant, vacant, List.filter_cons]
        split <;> rfl
  have hcontrol : ∀ c : Control, ofControl rs c =
      ((c.scope rs).map fun r => (⟨c, some r⟩ : Slot)) ++
        if (c.scope rs).isEmpty then [⟨c, none⟩] else [] := by
    intro c
    rw [ofControl, ← c.scope_eq]
    cases c.scope rs <;> simp
  -- control by control, the judged slots and the vacant one make up the slots of the control
  rw [all, judged, hvacant, funext hcontrol]
  exact List.flatMap_append_perm controls _ _

theorem perm_arranged (controls : List Control) (rs : List Resource) :
    (arranged controls rs).Perm (all controls rs) :=
  (List.mergeSort_perm _ _).trans (perm_all controls rs)

/-- Slots with a resource keep the order in which they are arranged when others are left out. -/
theorem filter_arranged {p : Slot → Bool} (hp : ∀ c, p ⟨c, none⟩ = false)
    (controls : List Control) (rs : List Resource) :
    (arranged controls rs).filter p = ((judged controls rs).filter p).mergeSort precedes := by
  have hvacant : (vacant controls rs).filter p = [] := by
    rw [vacant, List.filter_map, List.map_eq_nil_iff, List.filter_eq_nil_iff]
    intro c _
    rw [Function.comp_apply, hp]
    exact Bool.false_ne_true
  rw [arranged, filter_mergeSort precedes_iff, List.filter_append, hvacant, List.append_nil]

theorem mem_all_some {controls : List Control} {rs : List Resource} {c : Control} {r : Resource} :
    ⟨c, some r⟩ ∈ all controls rs ↔ c ∈ controls ∧ r ∈ rs ∧ c.Covers r := by
  have hcontrol : ∀ d : Control, (⟨c, some r⟩ : Slot) ∈ ofControl rs d ↔
      d = c ∧ r ∈ rs.filter fun r => decide (d.Covers r) := by
    intro d
    rw [ofControl]
    cases rs.filter fun r => decide (d.Covers r) with
    | nil => simp
    | cons first covered =>
        simp only [List.mem_map, mk.injEq, Option.some.injEq]
        constructor
        · rintro ⟨r', hr, rfl, rfl⟩
          exact ⟨rfl, hr⟩
        · rintro ⟨rfl, hr⟩
          exact ⟨r, hr, rfl, rfl⟩
  simp only [all, List.mem_flatMap, hcontrol, List.mem_filter, decide_eq_true_eq]
  constructor
  · rintro ⟨d, hd, rfl, h⟩
    exact ⟨hd, h⟩
  · rintro ⟨hc, h⟩
    exact ⟨c, hc, rfl, h⟩

theorem mem_all_none {controls : List Control} {rs : List Resource} {c : Control} :
    ⟨c, none⟩ ∈ all controls rs ↔ c ∈ controls ∧ ∀ r ∈ rs, ¬c.Covers r := by
  have hcontrol : ∀ d : Control, (⟨c, none⟩ : Slot) ∈ ofControl rs d ↔
      d = c ∧ (rs.filter fun r => decide (d.Covers r)) = [] := by
    intro d
    rw [ofControl]
    cases rs.filter fun r => decide (d.Covers r) with
    | nil => simp [eq_comm]
    | cons first covered => simp
  simp only [all, List.mem_flatMap, hcontrol, List.filter_eq_nil_iff, decide_eq_true_eq]
  constructor
  · rintro ⟨d, hd, rfl, h⟩
    exact ⟨hd, h⟩
  · rintro ⟨hc, h⟩
    exact ⟨c, hc, rfl, h⟩

theorem length_ofControl (rs : List Resource) (c : Control) :
    (ofControl rs c).length = max 1 (rs.countP fun r => decide (c.Covers r)) := by
  rw [ofControl, List.countP_eq_length_filter]
  cases rs.filter fun r => decide (c.Covers r) with
  | nil => rfl
  | cons r covered => simp

end Slot

end Guardrail.Compliance
