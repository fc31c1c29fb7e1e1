import Guardrail.Engine.Remote

/-!
# Fail modes

A call to a policy service brings a decision only if the service reports success and answers in
JSON. Every other outcome is left to the fail mode of the configuration.
-/

namespace Guardrail.Engine

/-- The service reports success, and the body of its answer is a JSON text. -/
def Exchange.Brings (x : Exchange) (document : Json) : Prop :=
  ∃ status body, x = .answered status body ∧ 200 ≤ status ∧ status < 300 ∧
    (Json.read? .anything body).bind Document.toJson? = some document

/-- The one violation of a change that nobody has judged. -/
structure Violation.ReportsOutage (v : Violation) (error : String) : Prop where
  ruleId : v.ruleId = "remote-policy-unavailable"
  severity : v.severity = .critical
  action : v.action = .deny
  /-- The message contains the text of the error. -/
  message : error.toList <:+: v.message.toList

/-- What a verdict makes of the outcome of a call. -/
structure RemoteConfig.Judges (c : RemoteConfig) (x : Exchange) (v : Verdict) : Prop where
  ok_iff : v.ok = true ↔ ∃ document, x.Brings document
  decided : ∀ document, x.Brings document →
    v.error? = none ∧ v.violations = decided (.ofPath c.policyPath) document
  failed : v.ok = false → ∃ error, v.error? = some error ∧
    (c.failMode = .lenient → v.violations = []) ∧
    (c.failMode = .strict → ∃ w : Violation, v.violations = [w] ∧ w.ReportsOutage error)
  /-- Where failed calls refuse, a change passes by a decision only. -/
  strict : c.failMode = .strict → v.isDenied = false →
    ∃ document, x.Brings document ∧
      ∀ w ∈ Engine.decided (.ofPath c.policyPath) document, w.action ≠ .deny
  /-- Where failed calls pass, none refuses. -/
  lenient : c.failMode = .lenient → v.ok = false → v.isDenied = false

theorem isSuccess_iff {status : Nat} : isSuccess status = true ↔ 200 ≤ status ∧ status < 300 := by
  simp [isSuccess]

theorem Verdict.isDenied_eq_false_iff {v : Verdict} :
    v.isDenied = false ↔ ∀ w ∈ v.violations, w.action ≠ .deny := by
  simp [isDenied, Action.isBlocking]

namespace Remote

variable {e : Remote} {x : Exchange}

theorem answer_eq_ok_iff {status : Nat} {document? : Option Json} {vs : List Violation} :
    e.answer status document? = .ok vs ↔
      (200 ≤ status ∧ status < 300) ∧
        ∃ document, document? = some document ∧ vs = decided e.topic document := by
  unfold answer
  rw [← isSuccess_iff]
  by_cases hs : isSuccess status = true
  · cases document? with
    | none => simp [hs]
    | some document => simp [hs, eq_comm]
  · simp [hs]

theorem violations_eq_ok_iff {vs : List Violation} :
    e.violations x = .ok vs ↔ ∃ document, x.Brings document ∧ vs = decided e.topic document := by
  cases x with
  | answered status body =>
      rw [violations, answer_eq_ok_iff]
      constructor
      · rintro ⟨⟨hlow, hhigh⟩, document, hbody, rfl⟩
        exact ⟨document, ⟨status, body, rfl, hlow, hhigh, hbody⟩, rfl⟩
      · rintro ⟨document, ⟨_, _, he, hlow, hhigh, hbody⟩, rfl⟩
        cases he
        exact ⟨⟨hlow, hhigh⟩, document, hbody, rfl⟩
  | garbled status => simp [violations, answer_eq_ok_iff, Exchange.Brings]
  | timedOut => simp [violations, Exchange.Brings]
  | unreachable => simp [violations, Exchange.Brings]
  | failed why => simp [violations, Exchange.Brings]

theorem evaluate_of_brings {document : Json} (h : x.Brings document) :
    e.evaluate x = .ofViolations (decided e.topic document) := by
  rw [evaluate, violations_eq_ok_iff.mpr ⟨document, h, rfl⟩]

/-- All failures of a call end up in one place. -/
theorem exists_evaluate_eq_onFailure (h : ¬∃ document, x.Brings document) :
    ∃ failure, e.evaluate x = e.onFailure failure := by
  cases hv : e.violations x with
  | error failure => exact ⟨failure, by rw [evaluate, hv]⟩
  | ok vs =>
      obtain ⟨document, hx, -⟩ := violations_eq_ok_iff.mp hv
      exact absurd ⟨document, hx⟩ h

theorem violations_onFailure_lenient (h : e.config.failMode = .lenient) (failure : Failure) :
    (e.onFailure failure).violations = [] := by
  simp [onFailure, Verdict.failed, h]

theorem violations_onFailure_strict (h : e.config.failMode = .strict) (failure : Failure) :
    (e.onFailure failure).violations = [unavailable failure] := by
  simp [onFailure, Verdict.failed, h]

theorem reportsOutage_unavailable (failure : Failure) :
    (unavailable failure).ReportsOutage failure.message where
  ruleId := rfl
  severity := rfl
  action := rfl
  message := by
    rw [unavailable, String.toList_append]
    exact (List.suffix_append _ _).isInfix

theorem isDenied_onFailure_strict (h : e.config.failMode = .strict) (failure : Failure) :
    (e.onFailure failure).isDenied = true := by
  rw [Verdict.isDenied, violations_onFailure_strict h]
  rfl

theorem judges_onFailure (h : ¬∃ document, x.Brings document) (failure : Failure) :
    e.config.Judges x (e.onFailure failure) where
  ok_iff := iff_of_false Bool.false_ne_true h
  decided := fun document hx => absurd ⟨document, hx⟩ h
  failed := fun _ => ⟨failure.message, rfl, fun hmode => violations_onFailure_lenient hmode failure,
    fun hmode => ⟨unavailable failure, violations_onFailure_strict hmode failure,
      reportsOutage_unavailable failure⟩⟩
  strict := by
    intro hmode hdenied
    rw [isDenied_onFailure_strict hmode] at hdenied
    exact absurd hdenied (by decide)
  lenient := by
    intro hmode _
    rw [Verdict.isDenied, violations_onFailure_lenient hmode]
    rfl

theorem judges_ofViolations {c : RemoteConfig} {document : Json} (h : x.Brings document) :
    c.Judges x (.ofViolations (Engine.decided (.ofPath c.policyPath) document)) where
  ok_iff := iff_of_true rfl ⟨document, h⟩
  decided := by
    rintro document' ⟨status', body', hx', -, -, hbody'⟩
    obtain ⟨status, body, hx, -, -, hbody⟩ := h
    obtain ⟨-, rfl⟩ := Exchange.answered.inj (hx.symm.trans hx')
    obtain rfl := Option.some.inj (hbody.symm.trans hbody')
    exact ⟨rfl, rfl⟩
  failed := fun hok => absurd hok (by simp [Verdict.ofViolations, Verdict.allow])
  strict := fun _ hdenied => ⟨document, h, Verdict.isDenied_eq_false_iff.mp hdenied⟩
  lenient := fun _ hok => absurd hok (by simp [Verdict.ofViolations, Verdict.allow])

theorem judges_evaluate_new (c : RemoteConfig) (x : Exchange) :
    c.Judges x ((new c).evaluate x) := by
  by_cases h : ∃ document, x.Brings document
  · obtain ⟨document, hx⟩ := h
    rw [evaluate_of_brings hx]
    exact judges_ofViolations hx
  · obtain ⟨failure, hfailure⟩ : ∃ failure, (new c).evaluate x = (new c).onFailure failure :=
      exists_evaluate_eq_onFailure h
    rw [hfailure]
    exact judges_onFailure (e := new c) h failure

/-- Whatever the client reports of a request, the verdict is a decision of the service or a failure
that the fail mode settles. -/
theorem judges_ask_new (c : RemoteConfig) (post : String → Json → Exchange) (r : Request) :
    c.Judges (post (c.url c.policyPath) (question r)) ((new c).ask post r) :=
  judges_evaluate_new c _

end Remote

end Guardrail.Engine
