import Guardrail.Proofs.Compliance.Ranking

/-!
# Critical resources

A report lists the resources that have failed a grave control, each once, with all that its failed
findings say of it. The list is in strict order, so nothing else can decide about it.
-/

namespace Guardrail.Compliance

/-- The failed findings about a resource, in the order of the summaries and of their findings. -/
def failuresOf (summaries : List Summary) (id : String) : List Finding :=
  (summaries.flatMap (·.findings)).filter fun f => f.status = .fail ∧ f.resourceId = id

namespace CriticalResource

/-- An entry gives the numbers, the controls and the frameworks of some failed findings. -/
structure Reports (r : CriticalResource) (fs : List Finding) : Prop where
  failures : r.failures = fs.length
  critical : r.critical = fs.countP (·.severity = .critical)
  high : r.high = fs.countP (·.severity = .high)
  controls : r.controls = fs.map (·.controlId)
  frameworks : ∀ w, w ∈ r.frameworks ↔ ∃ f ∈ fs, f.framework = w
  distinct : r.frameworks.Nodup

/-- More failures come first, then more critical ones, then the lesser id. -/
def Outranks (a b : CriticalResource) : Prop :=
  b.failures < a.failures ∨ a.failures = b.failures ∧
    (b.critical < a.critical ∨ a.critical = b.critical ∧ a.id < b.id)

theorem outranks_iff (a b : CriticalResource) : a.Outranks b ↔ a.key < b.key := by
  simp [Outranks, key, Prod.Lex.toLex_lt_toLex]

theorem reports_ofFinding (f : Finding) : (ofFinding f).Reports [] := by
  constructor <;> simp [ofFinding]

theorem Reports.record {r : CriticalResource} {fs : List Finding} (h : r.Reports fs)
    (f : Finding) : (r.record f).Reports (fs ++ [f]) where
  failures := by simp [CriticalResource.record, h.failures]
  critical := by simp [CriticalResource.record, h.critical, List.countP_cons]
  high := by simp [CriticalResource.record, h.high, List.countP_cons]
  controls := by simp [CriticalResource.record, h.controls]
  frameworks := by
    intro w
    have hall : w ∈ Framework.all := by cases w <;> decide
    have hrecord : w ∈ (r.record f).frameworks ↔ w ∈ r.frameworks ∨ f.framework = w := by
      simp [CriticalResource.record, hall, eq_comm (a := w)]
    rw [hrecord, h.frameworks w]
    simp [or_and_right, exists_or]
  distinct := List.Nodup.filter _ (by decide)

theorem Reports.isCritical_iff {r : CriticalResource} {fs : List Finding} (h : r.Reports fs) :
    r.isCritical = true ↔ ∃ f ∈ fs, f.severity = .critical ∨ f.severity = .high := by
  simp [isCritical, h.critical, h.high, List.countP_pos_iff, and_or_left, exists_or]

end CriticalResource

/-! ## Collecting failures -/

/-- The entries that some findings leave behind: one for every id that occurs among them. -/
structure Collected (fs : List Finding) (rs : List CriticalResource) : Prop where
  distinct : (rs.map CriticalResource.id).Nodup
  mem_iff : ∀ id, id ∈ rs.map CriticalResource.id ↔ ∃ f ∈ fs, f.resourceId = id
  reports : ∀ r ∈ rs, r.Reports (fs.filter (·.resourceId = r.id))

/-- What a failure does to the entries: it changes that of its resource, or makes one. -/
theorem mem_recordFailure {f : Finding} {r : CriticalResource} {rs : List CriticalResource}
    (hids : (rs.map CriticalResource.id).Nodup) (h : r ∈ recordFailure f rs) :
    r ∈ rs ∧ r.id ≠ f.resourceId ∨
      (∃ old ∈ rs, old.id = f.resourceId ∧ r = old.record f) ∨
        f.resourceId ∉ rs.map CriticalResource.id ∧
          r = (CriticalResource.ofFinding f).record f := by
  induction rs with
  | nil =>
      have hr : r = (CriticalResource.ofFinding f).record f := by simpa [recordFailure] using h
      exact .inr (.inr ⟨by simp, hr⟩)
  | cons s rs ih =>
      obtain ⟨hs, hids⟩ := List.nodup_cons.mp hids
      unfold recordFailure at h
      by_cases hf : s.id = f.resourceId
      · rw [if_pos hf, List.mem_cons] at h
        rcases h with rfl | h
        · exact .inr (.inl ⟨s, List.mem_cons_self, hf, rfl⟩)
        · refine .inl ⟨List.mem_cons_of_mem _ h, ?_⟩
          intro hr
          exact hs (hf ▸ hr ▸ List.mem_map_of_mem h)
      · rw [if_neg hf, List.mem_cons] at h
        rcases h with rfl | h
        · exact .inl ⟨List.mem_cons_self, hf⟩
        · rcases ih hids h with ⟨hr, hne⟩ | ⟨old, hold, hid, he⟩ | ⟨hnew, he⟩
          · exact .inl ⟨List.mem_cons_of_mem _ hr, hne⟩
          · exact .inr (.inl ⟨old, List.mem_cons_of_mem _ hold, hid, he⟩)
          · exact .inr (.inr ⟨by simp [hnew, Ne.symm hf], he⟩)

theorem Collected.recordFailure {fs : List Finding} {rs : List CriticalResource}
    (h : Collected fs rs) (f : Finding) : Collected (fs ++ [f]) (recordFailure f rs) where
  distinct := nodup_id_recordFailure f h.distinct
  mem_iff := by
    intro id
    have hnew : (∃ g ∈ fs ++ [f], g.resourceId = id) ↔
        id ∈ rs.map CriticalResource.id ∨ f.resourceId = id := by
      simp [h.mem_iff id, or_and_right, exists_or]
    rw [hnew, map_id_recordFailure]
    split
    next hf =>
      constructor
      · exact .inl
      · rintro (hid | rfl)
        · exact hid
        · exact hf
    next => simp [eq_comm]
  reports := by
    intro r hr
    rcases mem_recordFailure h.distinct hr with ⟨hr, hne⟩ | ⟨old, hold, hid, rfl⟩ | ⟨hnew, rfl⟩
    · simpa [hne.symm] using h.reports r hr
    · have hreport := (h.reports old hold).record f
      have hfs : (fs ++ [f]).filter (·.resourceId = (old.record f).id) =
          fs.filter (·.resourceId = old.id) ++ [f] := by
        simp [CriticalResource.record, hid]
      rw [hfs]
      exact hreport
    · have hfs : (fs ++ [f]).filter
          (·.resourceId = ((CriticalResource.ofFinding f).record f).id) = [] ++ [f] := by
        have hnone : fs.filter (·.resourceId = f.resourceId) = [] := by
          rw [h.mem_iff] at hnew
          simpa using hnew
        simp [CriticalResource.record, CriticalResource.ofFinding, hnone]
      rw [hfs]
      exact (CriticalResource.reports_ofFinding f).record f

theorem collected_foldl (fs : List Finding) :
    Collected fs (fs.foldl (fun rs f => recordFailure f rs) []) := by
  -- the findings already recorded stay arbitrary
  suffices hfold : ∀ (fs done : List Finding) (rs : List CriticalResource), Collected done rs →
      Collected (done ++ fs) (fs.foldl (fun rs f => recordFailure f rs) rs) from
    hfold fs [] [] ⟨by simp, by simp, by simp⟩
  intro fs
  induction fs with
  | nil =>
      intro done rs h
      simpa using h
  | cons f fs ih =>
      intro done rs h
      have hrest := ih (done ++ [f]) _ (h.recordFailure f)
      simpa using hrest

theorem filter_failures (summaries : List Summary) {id : String} (h : id ≠ "") :
    ((summaries.flatMap Summary.failures).filter (·.resourceId ≠ "")).filter
      (·.resourceId = id) = failuresOf summaries id := by
  have hfailures : summaries.flatMap Summary.failures =
      (summaries.flatMap (·.findings)).filter (·.status = .fail) := by
    rw [List.filter_flatMap]
    rfl
  rw [hfailures, failuresOf, List.filter_filter, List.filter_filter]
  refine List.filter_congr fun f _ => ?_
  by_cases hid : f.resourceId = id <;> simp [hid, h]

/-! ## The ranking -/

/-- What a list of critical resources has to say about some summaries. -/
structure IsRanking (summaries : List Summary) (ranked : List CriticalResource) : Prop where
  distinct : (ranked.map CriticalResource.id).Nodup
  listed : ∀ id, id ∈ ranked.map CriticalResource.id ↔
    id ≠ "" ∧ ∃ f ∈ failuresOf summaries id, f.severity = .critical ∨ f.severity = .high
  reports : ∀ r ∈ ranked, r.Reports (failuresOf summaries r.id)
  ordered : ranked.Pairwise CriticalResource.Outranks

theorem reports_failuresByResource {summaries : List Summary} {r : CriticalResource}
    (h : r ∈ failuresByResource summaries) :
    r.id ≠ "" ∧ r.Reports (failuresOf summaries r.id) := by
  have hcollected :=
    collected_foldl ((summaries.flatMap Summary.failures).filter (·.resourceId ≠ ""))
  obtain ⟨f, hf, hid⟩ := (hcollected.mem_iff r.id).mp (List.mem_map_of_mem h)
  have hne : r.id ≠ "" := by
    rw [← hid]
    simpa using (List.mem_filter.mp hf).2
  refine ⟨hne, ?_⟩
  rw [← filter_failures summaries hne]
  exact hcollected.reports r h

theorem mem_id_failuresByResource {summaries : List Summary} {id : String} (h : id ≠ "") :
    id ∈ (failuresByResource summaries).map CriticalResource.id ↔
      ∃ f, f ∈ failuresOf summaries id := by
  have hcollected :=
    collected_foldl ((summaries.flatMap Summary.failures).filter (·.resourceId ≠ ""))
  rw [← filter_failures summaries h]
  refine (hcollected.mem_iff id).trans (exists_congr fun f => ?_)
  exact (List.mem_filter.trans (by simp)).symm

theorem isRanking_criticalResources (summaries : List Summary) :
    IsRanking summaries (criticalResources summaries) := by
  have hperm := List.mergeSort_perm ((failuresByResource summaries).filter (·.isCritical))
    CriticalResource.precedes
  have hmem : ∀ r, r ∈ criticalResources summaries ↔
      r ∈ failuresByResource summaries ∧ r.isCritical = true :=
    fun r => hperm.mem_iff.trans List.mem_filter
  have hdistinct : ((criticalResources summaries).map CriticalResource.id).Nodup :=
    (hperm.map _).nodup_iff.mpr
      ((nodup_id_failuresByResource summaries).sublist (List.filter_sublist.map _))
  refine ⟨hdistinct, ?_, fun r hr => (reports_failuresByResource ((hmem r).mp hr).1).2, ?_⟩
  · intro id
    constructor
    · intro hid
      obtain ⟨r, hr, rfl⟩ := List.mem_map.mp hid
      obtain ⟨hr, hcritical⟩ := (hmem r).mp hr
      obtain ⟨hne, hreports⟩ := reports_failuresByResource hr
      exact ⟨hne, hreports.isCritical_iff.mp hcritical⟩
    · rintro ⟨hne, f, hf, hsevere⟩
      obtain ⟨r, hr, rfl⟩ := List.mem_map.mp ((mem_id_failuresByResource hne).mpr ⟨f, hf⟩)
      have hreports := (reports_failuresByResource hr).2
      have hcritical := hreports.isCritical_iff.mpr ⟨f, hf, hsevere⟩
      exact List.mem_map_of_mem ((hmem r).mpr ⟨hr, hcritical⟩)
  · -- no two entries have one id, so none of the sorted keys are equal
    have hkeys := pairwise_mergeSort_key CriticalResource.precedes_iff
      ((failuresByResource summaries).filter (·.isCritical))
    refine (hkeys.and (List.pairwise_map.mp hdistinct)).imp ?_
    rintro a b ⟨hle, hne⟩
    exact (CriticalResource.outranks_iff a b).mpr
      (lt_of_le_of_ne hle fun he => hne (CriticalResource.id_eq_of_key_eq he))

/-- The critical resources of a report are a ranking of its summaries, and they come out the same in
whatever order the collected resources are handed out. -/
theorem isRanking_critical_new (summaries : List Summary) (resources : Nat) :
    IsRanking summaries (Report.new summaries resources).critical ∧
      ∀ listed : List CriticalResource, listed.Perm (failuresByResource summaries) →
        (listed.filter (·.isCritical)).mergeSort CriticalResource.precedes =
          (Report.new summaries resources).critical :=
  ⟨isRanking_criticalResources summaries, fun _ h => rank_eq_of_perm h⟩

/-- Two frameworks, a resource that fails in both, one with fewer critical failures, one without
grave ones, and a failure without a resource. -/
theorem ranking_of_two_summaries :
    let row (framework : Framework) (id : String) (severity : Severity) (resource : String) :
        Finding :=
      { controlId := id, framework, clause := "1", title := "T", severity, status := .fail,
        resourceId := resource, resourceName := resource, resourceKind := "vm", reason := "" }
    let summaries : List Summary :=
      [.ofFindings .soc2 4
          [row .soc2 "A" .high "b", row .soc2 "A" .high "a", row .soc2 "B" .medium "c",
            row .soc2 "C" .critical ""],
        .ofFindings .cis 2 [row .cis "D" .critical "a", row .cis "E" .low "b"]]
    let listed := (failuresByResource summaries).reverse
    listed.Perm (failuresByResource summaries) ∧
      IsRanking summaries (Report.new summaries 3).critical ∧
      (listed.filter (·.isCritical)).mergeSort CriticalResource.precedes =
        (Report.new summaries 3).critical ∧
      (Report.new summaries 3).critical.map (fun r => (r.id, r.controls, r.frameworks)) =
        [("a", ["A", "D"], [.soc2, .cis]), ("b", ["A", "E"], [.soc2, .cis])] := by
  intro row summaries listed
  have hlisted : listed.Perm (failuresByResource summaries) := List.reverse_perm _
  obtain ⟨hranking, hsame⟩ := isRanking_critical_new summaries 3
  have hsorted : (listed.filter (·.isCritical)).Pairwise fun a b => a.precedes b = true := by
    decide +kernel
  refine ⟨hlisted, hranking, hsame listed hlisted, ?_⟩
  rw [← hsame listed hlisted, List.mergeSort_of_pairwise hsorted]
  decide +kernel

end Guardrail.Compliance
