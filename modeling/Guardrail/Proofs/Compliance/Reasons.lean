import Guardrail.Proofs.Compliance.Accounting
import Guardrail.Proofs.Compliance.Steadiness
import Guardrail.Proofs.Text.Spelling

/-!
# Reasons

The status of a finding and its reason are put together from different parts of what a control looks
at, and say the same: only a resource that passes is praised, and one without all the required tags
is told which ones it lacks.
-/

namespace Guardrail

namespace Compliance

variable {ctx : Context} {r : Resource} {tags : List String}

/-! ## Missing tags -/

/-- A resource lacks a tag that it does not have, or has with nothing but blanks. -/
def LacksTag (r : Resource) (tag : String) : Prop :=
  ∀ v, r.tag? tag = some v → ∀ c ∈ v.toList, Text.isBlank c = true

theorem Context.carries_eq_false_iff {tag : String} :
    ctx.carries tag = false ↔ LacksTag ctx.resource tag := by
  rw [carries, LacksTag, Context.tag?, Option.any_eq_false]
  refine forall₂_congr fun v _ => ?_
  rw [Bool.not_eq_false', List.isEmpty_iff, Text.trim_eq_nil_iff]

instance (r : Resource) (tag : String) : Decidable (LacksTag r tag) :=
  decidable_of_iff ((Context.alone r).carries tag = false) Context.carries_eq_false_iff

/-- The required tags that a resource lacks, in their order. -/
def lackedTags (r : Resource) : List String :=
  requiredTags.filter fun tag => LacksTag r tag

namespace Context

theorem missingTags_requiredTags (ctx : Context) :
    ctx.missingTags requiredTags = lackedTags ctx.resource := by
  refine List.filter_congr fun tag _ => ?_
  rw [Bool.eq_iff_iff, Bool.not_eq_true', carries_eq_false_iff, decide_eq_true_iff]

theorem carriesAll_iff : ctx.carriesAll tags = true ↔ ctx.missingTags tags = [] := by
  simp [carriesAll, missingTags, List.filter_eq_nil_iff]

theorem carriesAny_iff : ctx.carriesAny tags = true ↔ ctx.missingTags tags ≠ tags := by
  rw [carriesAny, missingTags, ne_eq, List.filter_eq_self, List.any_eq_true]
  simp

end Context

theorem ne_empty_of_mem_lackedTags {tag : String} (h : tag ∈ lackedTags r) : tag ≠ "" := by
  have hrequired : ∀ tag ∈ requiredTags, tag ≠ "" := by decide
  exact hrequired tag (List.mem_of_mem_filter h)

/-! ## Verdicts -/

/-- A verdict on required tags says how many a resource lacks, and names them. -/
structure Verdict.NamesTags (v : Verdict) (r : Resource) : Prop where
  pass_iff : v.status = .pass ↔ lackedTags r = []
  fail_iff : v.status = .fail ↔ lackedTags r = requiredTags
  warning_iff : v.status = .warning ↔ lackedTags r ≠ [] ∧ lackedTags r ≠ requiredTags
  named : v.status ≠ .pass →
    v.reason = r.id ++ " is missing tags: " ++ ", ".intercalate (lackedTags r) ∧
      ", ".intercalate (lackedTags r) ≠ ""

/-- The complaint about the tags that a resource lacks. -/
def tagComplaint (r : Resource) : String :=
  r.id ++ " is missing tags: " ++ ", ".intercalate (lackedTags r)

theorem judgeTags_eq_ite (ctx : Context) : judgeTags ctx =
    if lackedTags ctx.resource = [] then
      ⟨.pass, ctx.resource.id ++ " carries all required tags"⟩
    else if lackedTags ctx.resource = requiredTags then ⟨.fail, tagComplaint ctx.resource⟩
    else ⟨.warning, tagComplaint ctx.resource⟩ := by
  have hmissing := ctx.missingTags_requiredTags
  have hall : ctx.carriesAll requiredTags = true ↔ lackedTags ctx.resource = [] := by
    rw [Context.carriesAll_iff, hmissing]
  have hany : ctx.carriesAny requiredTags = true ↔ lackedTags ctx.resource ≠ requiredTags := by
    rw [Context.carriesAny_iff, hmissing]
  simp only [judgeTags, hmissing, hall, hany, ite_not]
  rfl

theorem namesTags_judgeTags (ctx : Context) : (judgeTags ctx).NamesTags ctx.resource := by
  have hrequired : requiredTags ≠ [] := by decide
  rw [judgeTags_eq_ite]
  split_ifs with hnone hall
  · exact {
      pass_iff := iff_of_true rfl hnone
      fail_iff := iff_of_false nofun fun h => hrequired (h.symm.trans hnone)
      warning_iff := iff_of_false nofun fun h => h.1 hnone
      named := fun h => absurd rfl h }
  · exact {
      pass_iff := iff_of_false nofun hnone
      fail_iff := iff_of_true rfl hall
      warning_iff := iff_of_false nofun fun h => h.2 hall
      named := fun _ => ⟨rfl, Text.intercalate_ne_empty _ hnone fun _ => ne_empty_of_mem_lackedTags⟩ }
  · exact {
      pass_iff := iff_of_false nofun hnone
      fail_iff := iff_of_false nofun hall
      warning_iff := iff_of_true rfl ⟨hnone, hall⟩
      named := fun _ => ⟨rfl, Text.intercalate_ne_empty _ hnone fun _ => ne_empty_of_mem_lackedTags⟩ }

/-- What is said of a resource that meets a demand. -/
def Demand.praise : Demand → String
  | .safeguard s => s.praise
  | .tags => "carries all required tags"

/-- A verdict never goes without a reason, and praises a resource just if it passes. -/
structure Verdict.Explains (v : Verdict) (praise : String) : Prop where
  reason_ne : v.reason ≠ ""
  praise_iff : v.reason = praise ↔ v.status = .pass

theorem Safeguard.complaint_ne_praise (s : Safeguard) : s.complaint ≠ s.praise := by
  cases s <;> decide

theorem Safeguard.explains_judge (s : Safeguard) (ctx : Context) :
    (s.judge ctx).Explains (ctx.resource.id ++ " " ++ s.praise) := by
  refine ⟨by simp [judge], ?_⟩
  cases h : s.holds ctx with
  | true => simp [judge, h, Status.ofCheck]
  | false => simp [judge, h, Status.ofCheck, s.complaint_ne_praise]

theorem tagComplaint_ne_praise (r : Resource) :
    tagComplaint r ≠ r.id ++ " " ++ "carries all required tags" := by
  rw [tagComplaint, String.append_assoc, String.append_assoc, ne_eq, String.append_right_inj]
  intro h
  have hletters := congrArg String.toList h
  simp at hletters

theorem explains_judgeTags (ctx : Context) :
    (judgeTags ctx).Explains (ctx.resource.id ++ " " ++ "carries all required tags") := by
  have hcomplaint := tagComplaint_ne_praise ctx.resource
  have hne : tagComplaint ctx.resource ≠ "" := by simp [tagComplaint]
  rw [judgeTags_eq_ite]
  split_ifs with hnone hall
  · refine ⟨by simp, iff_of_true ?_ rfl⟩
    rw [String.append_assoc]
    rfl
  · exact ⟨hne, iff_of_false hcomplaint nofun⟩
  · exact ⟨hne, iff_of_false hcomplaint nofun⟩

theorem Demand.explains_judge (d : Demand) (ctx : Context) :
    (d.judge ctx).Explains (ctx.resource.id ++ " " ++ d.praise) := by
  cases d with
  | safeguard s => exact s.explains_judge ctx
  | tags => exact explains_judgeTags ctx

/-! ## Rows -/

/-- What a finding says of its resource. -/
def Finding.verdict (f : Finding) : Verdict :=
  ⟨f.status, f.reason⟩

/-- A control asks for a safeguard or for tags. -/
def Control.Asks (c : Control) (d : Demand) : Prop :=
  ∀ ctx, c.judge ctx = .ok (d.judge ctx)

/-- The row of a slot gives the reason of its status. -/
structure Slot.Explained (graph : GraphSource) (slot : Slot) : Prop where
  /-- What did not pass has a reason. -/
  reason_ne : let v := (slot.finding graph).verdict
    v.status = .fail ∨ v.status = .warning → v.reason ≠ ""
  /-- A resource whose context is known is judged by what the control asks for. -/
  explains : ∀ r ctx d, slot.resource? = some r → Context.build graph r = .ok ctx →
    slot.control.Asks d → (slot.finding graph).verdict.Explains (r.id ++ " " ++ d.praise)
  namesTags : ∀ r ctx, slot.resource? = some r → Context.build graph r = .ok ctx →
    slot.control.Asks .tags → (slot.finding graph).verdict.NamesTags r
  /-- A resource whose context is not known fails, and is never praised. -/
  trouble : ∀ r e, slot.resource? = some r → Context.build graph r = .error e →
    (slot.finding graph).verdict = ⟨.fail, "Control evaluation error: " ++ e.message⟩

theorem resource_of_build {graph : GraphSource} (h : Context.build graph r = .ok ctx) :
    ctx.resource = r := by
  unfold Context.build at h
  cases hedges : graph.edges r.id .both with
  | error e =>
      rw [hedges] at h
      cases h
  | ok edges =>
      rw [hedges] at h
      cases hfound : (Context.neighbourIds r.id edges).mapM graph.find? with
      | error e =>
          simp only [bind, Except.bind, hfound] at h
          cases h
      | ok found =>
          simp only [bind, Except.bind, hfound] at h
          cases h
          rfl

theorem verdict_examine {graph : GraphSource} {c : Control} {d : Demand}
    (hbuild : Context.build graph r = .ok ctx) (hasks : c.Asks d) :
    (examine graph c r).verdict = d.judge ctx := by
  simp only [examine, hbuild, hasks ctx]
  rfl

theorem verdict_examine_of_error {graph : GraphSource} {e : Failure} (c : Control)
    (h : Context.build graph r = .error e) :
    (examine graph c r).verdict = ⟨.fail, "Control evaluation error: " ++ e.message⟩ := by
  simp only [examine, h]
  rfl

theorem reason_ne_empty_examine (graph : GraphSource) {c : Control} {d : Demand} (hasks : c.Asks d)
    (r : Resource) : (examine graph c r).verdict.reason ≠ "" := by
  cases hbuild : Context.build graph r with
  | error e =>
      rw [verdict_examine_of_error c hbuild]
      simp
  | ok ctx =>
      rw [verdict_examine hbuild hasks]
      exact (d.explains_judge ctx).reason_ne

theorem Slot.explained (graph : GraphSource) {slot : Slot} {asked : Demand}
    (hasked : slot.control.Asks asked) : slot.Explained graph := by
  obtain ⟨c, r?⟩ := slot
  cases r? with
  | none =>
      exact {
        reason_ne := fun hstatus => by rcases hstatus with h | h <;> cases h
        explains := nofun
        namesTags := nofun
        trouble := nofun }
  | some r =>
      have hfinding : finding graph ⟨c, some r⟩ = examine graph c r := rfl
      refine ⟨fun _ => ?_, ?_, ?_, ?_⟩
      · exact reason_ne_empty_examine graph hasked r
      · rintro _ ctx d ⟨⟩ hbuild hasks
        rw [hfinding, verdict_examine hbuild hasks, ← resource_of_build hbuild]
        exact d.explains_judge ctx
      · rintro _ ctx ⟨⟩ hbuild hasks
        rw [hfinding, verdict_examine hbuild hasks, ← resource_of_build hbuild]
        exact namesTags_judgeTags ctx
      · rintro _ e ⟨⟩ hbuild
        exact verdict_examine_of_error c hbuild

theorem Slot.control_mem {controls : List Control} {rs : List Resource} {slot : Slot}
    (h : slot ∈ Slot.all controls rs) : slot.control ∈ controls := by
  obtain ⟨c, r?⟩ := slot
  cases r? with
  | none => exact (mem_all_none.mp h).1
  | some r => exact (mem_all_some.mp h).1

/-- The findings of a framework explain themselves. Every one with the status fail or warning has a
reason; a resource whose context is known is praised just if it passes; and by a control on tags it
passes, fails or is warned of as it lacks none of the required tags, all of them or some, which are
then named. -/
theorem assessFramework_explained {graph : GraphSource} {filter : ResourceFilter}
    {rs : List Resource} (h : graph.query filter = .ok rs) (framework : Framework) :
    ∃ s, assessFramework Catalog.standard graph filter framework = .ok s ∧
      s.findings.Perm ((Slot.all (Catalog.standard framework) rs).map (Slot.finding graph)) ∧
      (∀ c ∈ Catalog.standard framework, ∃ d, c.Asks d) ∧
      ∀ slot ∈ Slot.all (Catalog.standard framework) rs, slot.Explained graph := by
  refine ⟨summarise Catalog.standard graph rs framework, ?_, perm_findings graph _ rs,
    fun c hc => Catalog.exists_judge_of_mem_standard hc, fun slot hslot => ?_⟩
  · rw [assessFramework, h]
    rfl
  · obtain ⟨d, hd⟩ := Catalog.exists_judge_of_mem_standard (Slot.control_mem hslot)
    exact Slot.explained graph hd

/-- A tag that is blank is missing, and the resource is warned of it. -/
theorem explained_of_blank_tag :
    let bucket : Resource := { Resource.new "b" "s3_bucket" "aws" with
      tags := [("environment", "prod"), ("owner", " ")] }
    let graph : Graph := { resources := [bucket], edges := [] }
    graph.source.query .all = .ok [bucket] ∧
      ∃ s, assessFramework Catalog.standard graph.source .all .soc2 = .ok s ∧
        ∃ f ∈ s.findings, f.title = "Asset ownership" ∧ f.status = .warning ∧
          f.reason = "b is missing tags: owner" := by
  intro bucket graph
  have hquery : graph.source.query .all = .ok [bucket] := rfl
  obtain ⟨s, hs, hrows, -, hexplained⟩ := assessFramework_explained hquery .soc2
  let ownership : Control := Catalog.soc2.get ⟨8, by decide⟩
  have hslot : ⟨ownership, some bucket⟩ ∈ Slot.all (Catalog.standard .soc2) [bucket] :=
    Slot.mem_all_some.mpr ⟨List.get_mem _ _, List.mem_singleton_self _, by decide⟩
  have hbuild : Context.build graph.source bucket = .ok (.alone bucket) := rfl
  have hnames := (hexplained _ hslot).namesTags bucket _ rfl hbuild fun _ => rfl
  have hlacked : lackedTags bucket = ["owner"] := by decide
  have hwarning := hnames.warning_iff.mpr (by rw [hlacked]; decide)
  have hnamed := (hnames.named (by rw [hwarning]; decide)).1
  rw [hlacked] at hnamed
  exact ⟨hquery, s, hs, _, hrows.mem_iff.mpr (List.mem_map_of_mem hslot),
    (Slot.finding_belongsTo _ _).title, hwarning, hnamed⟩

end Compliance

end Guardrail
