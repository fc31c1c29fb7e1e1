import Guardrail.Compliance.Report
import Guardrail.Proofs.Lists
import Mathlib.Data.List.Nodup
import Mathlib.Data.Prod.Lex
import Mathlib.Data.String.Basic
import Mathlib.Order.OrderDual

/-!
# The ranking of failing resources

Failures are collected by resource, once for each id. The ranking settles every tie by the id, so
it does not matter in which order the collected resources are handed out.
-/

namespace Guardrail.Compliance

namespace CriticalResource

/-- What resources are ranked by. -/
def key (r : CriticalResource) : ℕᵒᵈ ×ₗ ℕᵒᵈ ×ₗ String :=
  toLex (OrderDual.toDual r.failures, toLex (OrderDual.toDual r.critical, r.id))

theorem precedes_iff (a b : CriticalResource) : a.precedes b = true ↔ a.key ≤ b.key := by
  simp [precedes, key, Prod.Lex.toLex_le_toLex]

theorem id_eq_of_key_eq {a b : CriticalResource} (h : a.key = b.key) : a.id = b.id := by
  simp only [key, toLex_inj, Prod.mk.injEq] at h
  exact h.2.2

end CriticalResource

theorem map_id_recordFailure (f : Finding) (rs : List CriticalResource) :
    (recordFailure f rs).map CriticalResource.id =
      if f.resourceId ∈ rs.map CriticalResource.id then rs.map CriticalResource.id
      else rs.map CriticalResource.id ++ [f.resourceId] := by
  induction rs with
  | nil => rfl
  | cons r rs ih =>
      unfold recordFailure
      by_cases hr : r.id = f.resourceId
      · simp [hr, CriticalResource.record]
      · rw [if_neg hr, List.map_cons, ih, List.map_cons]
        by_cases hf : f.resourceId ∈ rs.map CriticalResource.id
        · rw [if_pos hf, if_pos (List.mem_cons_of_mem _ hf)]
        · rw [if_neg hf, if_neg (by simp [hf, Ne.symm hr])]
          rfl

theorem nodup_id_recordFailure (f : Finding) {rs : List CriticalResource}
    (h : (rs.map CriticalResource.id).Nodup) :
    ((recordFailure f rs).map CriticalResource.id).Nodup := by
  rw [map_id_recordFailure]
  split
  · exact h
  next hf => exact (List.perm_append_singleton _ _).nodup_iff.mpr (List.nodup_cons.mpr ⟨hf, h⟩)

theorem nodup_id_failuresByResource (summaries : List Summary) :
    ((failuresByResource summaries).map CriticalResource.id).Nodup := by
  have hfold : ∀ (fs : List Finding) (rs : List CriticalResource),
      (rs.map CriticalResource.id).Nodup →
        ((fs.foldl (fun rs f => recordFailure f rs) rs).map CriticalResource.id).Nodup := by
    intro fs
    induction fs with
    | nil => exact fun rs h => h
    | cons f fs ih => exact fun rs h => ih (recordFailure f rs) (nodup_id_recordFailure f h)
  exact hfold _ [] List.nodup_nil

/-- The ranking is the same in whatever order the collected resources are listed. -/
theorem rank_eq_of_perm {summaries : List Summary} {listed : List CriticalResource}
    (h : listed.Perm (failuresByResource summaries)) :
    (listed.filter (·.isCritical)).mergeSort CriticalResource.precedes =
      criticalResources summaries := by
  -- the id is part of the key, and no id is listed twice
  refine mergeSort_eq_of_perm CriticalResource.precedes_iff (h.filter _) fun a ha b hb hab => ?_
  have hids := (h.map CriticalResource.id).nodup_iff.mpr (nodup_id_failuresByResource summaries)
  exact List.inj_on_of_nodup_map hids (List.mem_of_mem_filter ha) (List.mem_of_mem_filter hb)
    (CriticalResource.id_eq_of_key_eq hab)

end Guardrail.Compliance
