import Guardrail.Engine.Batch
import Guardrail.Proofs.Pool

/-!
# What becomes of the requests of a batch

A batch has one verdict for each request, in the order of the requests. Which verdict that is
depends on the evaluation of the request alone: not on the others, some of which may collapse, and
not on how many are worked on at once.
-/

namespace Guardrail.Engine.Batch

variable {α : Type} {evaluate : α → Option Verdict} {requests : List α}

/-- The verdict on a request, whether its evaluation comes to an answer or collapses. -/
def verdictOn (evaluate : α → Option Verdict) (request : α) : Verdict :=
  (evaluate request).getD collapsed

/-! ## Verdicts and totals -/

/-- A batch has a verdict of its own for each request. -/
structure Isolates (b : Batch) (evaluate : α → Option Verdict) (requests : List α) : Prop where
  size : b.size = requests.length
  answered : ∀ (i : Nat) request v, requests[i]? = some request → evaluate request = some v →
    b.verdicts[i]? = some v
  /-- An evaluation that collapses fails in the place of its request. -/
  collapsed : ∀ (i : Nat) request, requests[i]? = some request → evaluate request = none →
    ∃ v, b.verdicts[i]? = some v ∧ v.ok = false ∧ v.error? = some "evaluation panicked" ∧
      v.violations = []
  violations : b.violations = (b.verdicts.map fun v => v.violations.length).sum
  failed : b.failed = (b.verdicts.filter fun v => v.ok = false).length
  anyDenied_iff : b.anyDenied = true ↔ ∃ v ∈ b.verdicts, ∃ w ∈ v.violations, w.action = .deny

theorem verdicts_run (evaluate : α → Option Verdict) (requests : List α) :
    (run evaluate requests).verdicts = requests.map (verdictOn evaluate) :=
  rfl

theorem violations_ofVerdicts (vs : List Verdict) :
    (ofVerdicts vs).violations = (vs.map fun v => v.violations.length).sum := by
  rw [List.sum_eq_foldl, List.foldl_map]
  rfl

theorem failed_ofVerdicts (vs : List Verdict) :
    (ofVerdicts vs).failed = (vs.filter fun v => v.ok = false).length := by
  rw [ofVerdicts, List.countP_eq_length_filter]
  simp only [Bool.decide_eq_false]

theorem anyDenied_iff {b : Batch} :
    b.anyDenied = true ↔ ∃ v ∈ b.verdicts, ∃ w ∈ v.violations, w.action = .deny := by
  simp only [anyDenied, Verdict.isDenied, Action.isBlocking, List.any_eq_true, decide_eq_true_eq]

theorem isolates_run (evaluate : α → Option Verdict) (requests : List α) :
    (run evaluate requests).Isolates evaluate requests where
  size := List.length_map _
  answered := by
    intro i request v hrequest hv
    rw [verdicts_run, List.getElem?_map, hrequest, Option.map_some, verdictOn, hv, Option.getD_some]
  collapsed := by
    intro i request hrequest hnone
    refine ⟨Batch.collapsed, ?_, rfl, rfl, rfl⟩
    rw [verdicts_run, List.getElem?_map, hrequest, Option.map_some, verdictOn, hnone,
      Option.getD_none]
  violations := violations_ofVerdicts _
  failed := failed_ofVerdicts _
  anyDenied_iff := anyDenied_iff

/-! ## Batches put together -/

/-- A batch is two others put together. -/
structure Joins (a b c : Batch) : Prop where
  verdicts : c.verdicts = a.verdicts ++ b.verdicts
  size : c.size = a.size + b.size
  violations : c.violations = a.violations + b.violations
  failed : c.failed = a.failed + b.failed
  anyDenied : c.anyDenied = (a.anyDenied || b.anyDenied)

theorem joins_ofVerdicts_append (vs ws : List Verdict) :
    (ofVerdicts vs).Joins (ofVerdicts ws) (ofVerdicts (vs ++ ws)) where
  verdicts := rfl
  size := List.length_append
  violations := by simp only [violations_ofVerdicts, List.map_append, List.sum_append]
  failed := List.countP_append
  anyDenied := List.any_append

theorem joins_run_append (evaluate : α → Option Verdict) (requests further : List α) :
    (run evaluate requests).Joins (run evaluate further) (run evaluate (requests ++ further)) := by
  rw [run, run, run, List.map_append]
  exact joins_ofVerdicts_append _ _

/-! ## Evaluations side by side -/

/-- The batch is put together from verdicts that were worked out side by side. -/
def IsPooled (bound : Nat) (evaluate : α → Option Verdict) (requests : List α) (b : Batch) : Prop :=
  ∃ verdicts, Pool.Delivers bound (verdictOn evaluate) requests verdicts ∧ b = ofVerdicts verdicts

theorem isPooled_iff_eq_run {bound : Nat} (hbound : 0 < bound) (b : Batch) :
    IsPooled bound evaluate requests b ↔ b = run evaluate requests := by
  simp only [IsPooled, Pool.delivers_iff hbound, exists_eq_left]
  rfl

/-- What can be said of a batch while it is worked on. -/
structure IsUnderWay (bound : Nat) (evaluate : α → Option Verdict) (requests : List α)
    (p : Pool α Verdict) : Prop where
  bounded : p.opened.length ≤ bound
  /-- The verdicts that are there are those on the first requests. -/
  delivered : p.delivered <+: (run evaluate requests).verdicts
  /-- Whatever has collapsed, the rest can be brought to an end. -/
  completes : ∃ q, Pool.Reaches bound (verdictOn evaluate) p q ∧ q.IsDone

theorem isUnderWay_of_reaches {bound : Nat} (hbound : 0 < bound) {p : Pool α Verdict}
    (h : Pool.Reaches bound (verdictOn evaluate) (.start requests) p) :
    IsUnderWay bound evaluate requests p where
  bounded := Pool.length_opened_le_of_reaches h
  delivered := Pool.delivered_prefix_of_reaches h
  completes := Pool.exists_reaches_isDone hbound p

/-- Whatever number of requests is worked on at once, and whichever of them collapse, there is one
batch that can come about. Each request has its own verdict in it, and it goes together with others
as the requests do. -/
theorem isolates_run_of_any_bound (evaluate : α → Option Verdict) (requests : List α) :
    (∀ concurrency b,
      IsPooled (max 1 concurrency) evaluate requests b ↔ b = run evaluate requests) ∧
    (∀ concurrency p,
      Pool.Reaches (max 1 concurrency) (verdictOn evaluate) (.start requests) p →
        IsUnderWay (max 1 concurrency) evaluate requests p) ∧
    (run evaluate requests).Isolates evaluate requests ∧
    ∀ further, (run evaluate requests).Joins (run evaluate further)
      (run evaluate (requests ++ further)) := by
  have hbound : ∀ concurrency : Nat, 0 < max 1 concurrency := by omega
  exact ⟨fun concurrency => isPooled_iff_eq_run (hbound concurrency),
    fun concurrency p => isUnderWay_of_reaches (hbound concurrency),
    isolates_run evaluate requests, joins_run_append evaluate requests⟩

/-- The second of three evaluations collapses while one at a time is worked on. -/
theorem isolates_beside_collapse :
    let v : Violation := ⟨"r", "no", .high, .deny, "p"⟩
    let evaluate (n : Nat) : Option Verdict :=
      if n = 1 then none else some (.ofViolations (.replicate n v))
    let p : Pool Nat Verdict := ⟨[1, 2], [.inl 0], []⟩
    let b := run evaluate [0, 1, 2]
    Pool.Reaches (max 1 0) (verdictOn evaluate) (.start [0, 1, 2]) p ∧
      IsUnderWay (max 1 0) evaluate [0, 1, 2] p ∧ IsPooled (max 1 0) evaluate [0, 1, 2] b ∧
      b.verdicts[0]? = some .allow ∧ b.verdicts[2]? = some (.ofViolations [v, v]) ∧
      b.violations = 2 ∧ b.failed = 1 ∧ b.anyDenied = true := by
  intro v evaluate p b
  obtain ⟨hpooled, hway, hisolates, -⟩ := isolates_run_of_any_bound evaluate [0, 1, 2]
  have hfree : ([] : List (Nat ⊕ Verdict)).length < max 1 0 := by decide
  have hreaches : Pool.Reaches (max 1 0) (verdictOn evaluate) (.start [0, 1, 2]) p :=
    .single (.take hfree)
  have hlast : b.verdicts[2]? = some (.ofViolations [v, v]) := hisolates.answered 2 2 _ rfl rfl
  have hdenied : b.anyDenied = true :=
    hisolates.anyDenied_iff.mpr ⟨_, List.mem_of_getElem? hlast, v, List.mem_cons_self, rfl⟩
  exact ⟨hreaches, hway 0 p hreaches, (hpooled 0 b).mpr rfl, hisolates.answered 0 0 _ rfl rfl,
    hlast, hisolates.violations, hisolates.failed, hdenied⟩

end Guardrail.Engine.Batch
