import Guardrail.Engine.Mock
import Mathlib.Data.List.Forall2

/-!
# Runs of a mock engine

A mock engine remembers the requests since it was last told to forget, in their order. What it
replies hangs on its responses and its default alone, and on nothing that has happened before.
-/

namespace Guardrail.Engine.Mock

/-! ## Responses -/

/-- The engine with a default, and with responses that are added one after another. -/
def ofResponses (default : Verdict) (responses : List ((Request → Bool) × Verdict)) : Mock :=
  responses.foldl (fun m (test, verdict) => m.respond test verdict) (new.withDefault default)

/-- A verdict is that of the first response whose test a request passes, or the default where it
passes none. -/
inductive IsAnswer (responses : List ((Request → Bool) × Verdict)) (default : Verdict)
    (r : Request) : Verdict → Prop where
  | first {front back : List ((Request → Bool) × Verdict)} {test : Request → Bool}
      {verdict : Verdict} (h : responses = front ++ (test, verdict) :: back)
      (hfront : ∀ x ∈ front, x.1 r = false) (htest : test r = true) :
      IsAnswer responses default r verdict
  | default (h : ∀ x ∈ responses, x.1 r = false) : IsAnswer responses default r default

theorem foldl_respond (m : Mock) (responses : List ((Request → Bool) × Verdict)) :
    responses.foldl (fun m (test, verdict) => m.respond test verdict) m =
      { m with responses := m.responses ++ responses } := by
  induction responses generalizing m with
  | nil => simp
  | cons x responses ih =>
      obtain ⟨test, verdict⟩ := x
      rw [List.foldl_cons, ih]
      simp [respond]

theorem ofResponses_eq (default : Verdict) (responses : List ((Request → Bool) × Verdict)) :
    ofResponses default responses = { responses, default, log := [] } :=
  foldl_respond (new.withDefault default) responses

theorem isAnswer_iff (m : Mock) (r : Request) (v : Verdict) :
    IsAnswer m.responses m.default r v ↔ m.answer r = v := by
  unfold answer
  constructor
  · intro h
    cases h with
    | @first front back test _ hresponses hfront htest =>
        have hfind : m.responses.find? (fun (test, _) => test r) = some (test, v) :=
          List.find?_eq_some_iff_append.mpr
            ⟨htest, front, back, hresponses, fun x hx => by simp [hfront x hx]⟩
        rw [hfind]
        rfl
    | default h =>
        have hfind : m.responses.find? (fun (test, _) => test r) = none :=
          List.find?_eq_none.mpr fun x hx => by simp [h x hx]
        rw [hfind]
        rfl
  · rintro rfl
    cases hfind : m.responses.find? fun (test, _) => test r with
    | none => exact .default fun x hx => by simpa using List.find?_eq_none.mp hfind x hx
    | some x =>
        obtain ⟨htest, front, back, hresponses, hfront⟩ := List.find?_eq_some_iff_append.mp hfind
        exact .first hresponses (fun y hy => by simpa using hfront y hy) htest

/-! ## Replies -/

variable {m m' : Mock}

/-- A step leaves the responses and the default as they are. -/
theorem frame_perform (m : Mock) (step : Step) :
    (m.perform step).2.responses = m.responses ∧ (m.perform step).2.default = m.default := by
  cases step <;> exact ⟨rfl, rfl⟩

/-- What has been judged before does not show in a reply. -/
theorem reply_congr (hresponses : m'.responses = m.responses) (hdefault : m'.default = m.default)
    (step : Step) : (m'.perform step).1 = (m.perform step).1 := by
  cases step with
  | judge r =>
      have hanswer : m'.answer r = m.answer r := by
        rw [answer, answer, hresponses, hdefault]
      rw [perform, perform, evaluate, evaluate, hanswer]
  | clear => rfl
  | checkHealth => rfl

theorem replies_run_of_frame (hresponses : m'.responses = m.responses)
    (hdefault : m'.default = m.default) (steps : List Step) :
    (m'.run steps).1 = steps.map fun step => (m.perform step).1 := by
  induction steps generalizing m' with
  | nil => rfl
  | cons step steps ih =>
      obtain ⟨hframe, hframe'⟩ := frame_perform m' step
      have hrest := ih (hframe.trans hresponses) (hframe'.trans hdefault)
      rw [List.map_cons, ← hrest, ← reply_congr hresponses hdefault step]
      rfl

/-! ## Memory -/

/-- The request that a step asks about. -/
def Step.request? : Step → Option Request
  | .judge r => some r
  | _ => none

/-- The last ones of several steps: those since the engine was told to forget, or all of them. -/
inductive IsRecent : List Step → List Step → Prop where
  | all {recent : List Step} (h : .clear ∉ recent) : IsRecent recent recent
  | behind (front : List Step) {recent : List Step} (h : .clear ∉ recent) :
      IsRecent (front ++ .clear :: recent) recent

/-- After several steps an engine has the requests of the last ones in mind. -/
def Remembers (steps : List Step) (m : Mock) : Prop :=
  ∃ recent, IsRecent steps recent ∧ m.log = recent.filterMap Step.request? ∧
    m.calls = (recent.filterMap Step.request?).length

theorem isRecent_clear (done : List Step) : IsRecent (done ++ [.clear]) [] :=
  .behind done List.not_mem_nil

theorem IsRecent.append {done recent : List Step} (h : IsRecent done recent) {step : Step}
    (hstep : step ≠ .clear) : IsRecent (done ++ [step]) (recent ++ [step]) := by
  have hlast : .clear ∉ [step] := by simpa using hstep.symm
  cases h with
  | all h => exact .all fun hmem => (List.mem_append.mp hmem).elim h hlast
  | behind front h =>
      rw [List.append_assoc, List.cons_append]
      exact .behind front fun hmem => (List.mem_append.mp hmem).elim h hlast

theorem remembers_of_log {steps recent : List Step} (h : IsRecent steps recent)
    (hlog : m.log = recent.filterMap Step.request?) : Remembers steps m :=
  ⟨recent, h, hlog, by rw [calls, hlog]⟩

theorem Remembers.perform {done : List Step} (h : Remembers done m) (step : Step) :
    Remembers (done ++ [step]) (m.perform step).2 := by
  obtain ⟨recent, hrecent, hlog, -⟩ := h
  cases step with
  | judge r =>
      refine remembers_of_log (hrecent.append nofun) ?_
      rw [List.filterMap_append, ← hlog]
      rfl
  | clear => exact remembers_of_log (isRecent_clear done) rfl
  | checkHealth =>
      refine remembers_of_log (hrecent.append nofun) ?_
      rw [List.filterMap_append, ← hlog]
      exact (List.append_nil m.log).symm

theorem Remembers.run {done : List Step} (h : Remembers done m) (steps : List Step) :
    Remembers (done ++ steps) (m.run steps).2 := by
  induction steps generalizing done m with
  | nil =>
      rw [List.append_nil]
      exact h
  | cons step steps ih =>
      have hrest := ih (h.perform step)
      rw [List.append_assoc] at hrest
      exact hrest

/-- After any steps an engine remembers the requests since it was last told to forget. Each of its
replies is the one that it would have given at the start, and what it gives there is the verdict of
the first response that fits, or the default. -/
theorem remembers_and_replies_run (default : Verdict)
    (responses : List ((Request → Bool) × Verdict)) (steps : List Step) :
    let m := ofResponses default responses
    let last := (m.run steps).2
    Remembers steps last ∧ last.perform .checkHealth = (.healthy true, last) ∧
      (m.run steps).1 = steps.map (fun step => (m.perform step).1) ∧
      ∀ r v, (m.perform (.judge r)).1 = .judged v ↔ IsAnswer responses default r v := by
  intro m last
  have hm : m = { responses, default, log := [] } := ofResponses_eq default responses
  have hstart : Remembers [] m := remembers_of_log (.all List.not_mem_nil) (by rw [hm]; rfl)
  refine ⟨hstart.run steps, rfl, replies_run_of_frame rfl rfl steps, fun r v => ?_⟩
  have hanswer : IsAnswer responses default r v ↔ m.answer r = v := by
    rw [hm]
    exact isAnswer_iff { responses, default, log := [] } r v
  rw [hanswer]
  exact ⟨Reply.judged.inj, congrArg Reply.judged⟩

/-- The first response fits every request, and what was judged in front of `clear` is forgotten. -/
example (a b : Request) (v w default : Verdict) :
    let m := ofResponses default [(fun _ => true, v), (fun _ => true, w)]
    m.run [.judge a, .clear, .judge b, .checkHealth] =
      ([.judged v, .cleared, .judged v, .healthy true], { m with log := [b] }) :=
  rfl

end Guardrail.Engine.Mock
