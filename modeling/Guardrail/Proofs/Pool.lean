import Mathlib.Algebra.GroupWithZero.Nat
import Mathlib.Logic.Relation

/-!
# Working side by side

Several jobs are worked on at once, at most a given number of them. They are opened in their order
and may end in any other, but results are delivered in the order of the jobs.
-/

namespace Guardrail

/-- The jobs that wait, those that are open, and the results that have been delivered. An open job
that has ended is replaced by its result. -/
structure Pool (α β : Type) where
  waiting : List α
  opened : List (α ⊕ β)
  delivered : List β

namespace Pool

variable {α β : Type} {bound : Nat} {work : α → β}

/-- All jobs wait. -/
def start (jobs : List α) : Pool α β :=
  { waiting := jobs, opened := [], delivered := [] }

/-- Nothing is left to do. -/
def IsDone (p : Pool α β) : Prop :=
  p.waiting = [] ∧ p.opened = []

/-- What can happen next while at most `bound` jobs are open. -/
inductive Step (bound : Nat) (work : α → β) : Pool α β → Pool α β → Prop where
  | take {a : α} {waiting : List α} {opened : List (α ⊕ β)} {delivered : List β}
      (h : opened.length < bound) :
      Step bound work ⟨a :: waiting, opened, delivered⟩ ⟨waiting, opened ++ [.inl a], delivered⟩
  | finish {a : α} {waiting : List α} {front back : List (α ⊕ β)} {delivered : List β} :
      Step bound work ⟨waiting, front ++ .inl a :: back, delivered⟩
        ⟨waiting, front ++ .inr (work a) :: back, delivered⟩
  | deliver {b : β} {waiting : List α} {opened : List (α ⊕ β)} {delivered : List β} :
      Step bound work ⟨waiting, .inr b :: opened, delivered⟩ ⟨waiting, opened, delivered ++ [b]⟩

/-- Several steps. -/
abbrev Reaches (bound : Nat) (work : α → β) : Pool α β → Pool α β → Prop :=
  Relation.ReflTransGen (Step bound work)

/-- Jobs are worked on until nothing is left to do, and then these results have been delivered. -/
def Delivers (bound : Nat) (work : α → β) (jobs : List α) (results : List β) : Prop :=
  ∃ p, Reaches bound work (start jobs) p ∧ p.IsDone ∧ p.delivered = results

/-! ## Results -/

/-- The results that have been delivered, and those that are still to come. -/
def results (work : α → β) (p : Pool α β) : List β :=
  p.delivered ++ (p.opened.map (Sum.elim work id) ++ p.waiting.map work)

theorem Step.results_eq {p q : Pool α β} (h : Step bound work p q) :
    q.results work = p.results work := by
  cases h <;> simp [results]

theorem results_eq_of_reaches {p q : Pool α β} (h : Reaches bound work p q) :
    q.results work = p.results work := by
  induction h with
  | refl => rfl
  | tail _ hstep ih => rw [hstep.results_eq, ih]

/-- At any time the results of the first jobs have been delivered. -/
theorem delivered_prefix_of_reaches {jobs : List α} {p : Pool α β}
    (h : Reaches bound work (start jobs) p) : p.delivered <+: jobs.map work :=
  ⟨_, results_eq_of_reaches h⟩

/-! ## The bound -/

theorem Step.length_opened_le {p q : Pool α β} (h : Step bound work p q)
    (hp : p.opened.length ≤ bound) : q.opened.length ≤ bound := by
  cases h with
  | take h => rwa [List.length_append]
  | finish => simpa using hp
  | deliver => exact Nat.le_of_succ_le hp

theorem length_opened_le_of_reaches {jobs : List α} {p : Pool α β}
    (h : Reaches bound work (start jobs) p) : p.opened.length ≤ bound := by
  induction h with
  | refl => exact Nat.zero_le bound
  | tail _ hstep ih => exact hstep.length_opened_le ih

/-! ## Progress -/

/-- The number of steps that are left. -/
def weight (p : Pool α β) : Nat :=
  3 * p.waiting.length + (p.opened.map (Sum.elim (fun _ => 2) fun _ => 1)).sum

theorem Step.weight_lt {p q : Pool α β} (h : Step bound work p q) : q.weight < p.weight := by
  cases h with
  | take h =>
      simp only [weight, List.length_cons, List.map_append, List.sum_append, List.map_cons,
        List.map_nil, List.sum_cons, List.sum_nil, Sum.elim_inl]
      omega
  | finish => simp [weight]
  | deliver => simp [weight]

/-- As long as something is left to do, something can be done. -/
theorem exists_step (hbound : 0 < bound) {p : Pool α β} (h : ¬p.IsDone) :
    ∃ q, Step bound work p q := by
  obtain ⟨waiting, opened, delivered⟩ := p
  cases opened with
  | cons job opened =>
      cases job with
      | inl a =>
          have hfinish : Step bound work ⟨waiting, [] ++ .inl a :: opened, delivered⟩
              ⟨waiting, [] ++ .inr (work a) :: opened, delivered⟩ := .finish
          exact ⟨_, hfinish⟩
      | inr b => exact ⟨_, .deliver⟩
  | nil =>
      cases waiting with
      | nil => exact absurd ⟨rfl, rfl⟩ h
      | cons a waiting => exact ⟨_, .take hbound⟩

theorem exists_reaches_isDone (hbound : 0 < bound) (p : Pool α β) :
    ∃ q, Reaches bound work p q ∧ q.IsDone := by
  -- a step need not make the pool smaller, since a job that ends stays open until it is delivered
  induction hn : p.weight using Nat.strongRecOn generalizing p with
  | _ n ih =>
      by_cases hdone : p.IsDone
      · exact ⟨p, .refl, hdone⟩
      · obtain ⟨q, hq⟩ : ∃ q, Step bound work p q := exists_step hbound hdone
        obtain ⟨r, hr, hrdone⟩ := ih q.weight (hn ▸ hq.weight_lt) q rfl
        exact ⟨r, .head hq hr, hrdone⟩

/-- However the jobs are interleaved, the results are those of the jobs in their order. -/
theorem delivers_iff (hbound : 0 < bound) (jobs : List α) (results : List β) :
    Delivers bound work jobs results ↔ results = jobs.map work := by
  have hdelivered : ∀ q : Pool α β, Reaches bound work (start jobs) q → q.IsDone →
      q.delivered = jobs.map work := by
    rintro q hq ⟨hwaiting, hopened⟩
    have hresults := results_eq_of_reaches hq
    simpa [Pool.results, hwaiting, hopened, start] using hresults
  constructor
  · rintro ⟨q, hq, hdone, rfl⟩
    exact hdelivered q hq hdone
  · rintro rfl
    obtain ⟨q, hq, hdone⟩ : ∃ q, Reaches bound work (start jobs) q ∧ q.IsDone :=
      exists_reaches_isDone hbound (start jobs)
    exact ⟨q, hq, hdone, hdelivered q hq hdone⟩

end Pool

end Guardrail
