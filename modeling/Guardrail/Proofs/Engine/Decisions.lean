import Guardrail.Proofs.Engine.FailModes
import Guardrail.Proofs.Json.Documents
import Mathlib.Data.List.Forall2

/-!
# Violations in decision documents

Violations that are given out and sent back as a decision are read as they were, whatever engine
reads them, and whatever stands beside them in the document.
-/

namespace Guardrail.Engine

/-! ## What is written -/

/-- A value has the members of a violation; it may have others beside them. -/
structure Violation.IsWrittenAs (v : Violation) (x : Json) : Prop where
  ruleId : x.member? "ruleId" = some (.text v.ruleId)
  message : x.member? "message" = some (.text v.message)
  severity : x.member? "severity" = some v.severity.toJson
  action : x.member? "action" = some v.action.toJson
  package : x.member? "package" = some (.text v.package)

namespace Violation

/-- The names of the members of a violation. -/
def memberNames : List String :=
  ["ruleId", "message", "severity", "action", "package"]

theorem isWrittenAs_toJson (v : Violation) : v.IsWrittenAs v.toJson where
  ruleId := Json.member?_ofMembers (by simp) "ruleId"
  message := Json.member?_ofMembers (by simp) "message"
  severity := Json.member?_ofMembers (by simp) "severity"
  action := Json.member?_ofMembers (by simp) "action"
  package := Json.member?_ofMembers (by simp) "package"

/-- A member of another name may be added. -/
theorem IsWrittenAs.putMember {v : Violation} {ms : List (String × Json)}
    (h : v.IsWrittenAs (.object ms)) {name : String} (hname : name ∉ memberNames) (value : Json) :
    v.IsWrittenAs (.object (Json.putMember name value ms)) := by
  have hother : ∀ other ∈ memberNames,
      (Json.object (Json.putMember name value ms)).member? other =
        (Json.object ms).member? other := by
    intro other hother
    have hne : other ≠ name := fun he => hname (he ▸ hother)
    rw [Json.member?, Json.lookup_putMember, if_neg hne, Json.member?]
  exact
    { ruleId := (hother _ (by decide)).trans h.ruleId
      message := (hother _ (by decide)).trans h.message
      severity := (hother _ (by decide)).trans h.severity
      action := (hother _ (by decide)).trans h.action
      package := (hother _ (by decide)).trans h.package }

end Violation

/-- The result of a document is a list of items, or an object with the list under `violations`. -/
def Reports (document : Json) (items : List Json) : Prop :=
  document.member? "result" = some (.array items) ∨
    ∃ result, document.member? "result" = some result ∧
      result.member? "violations" = some (.array items)

/-! ## What is read -/

variable {t : Topic} {v : Violation} {vs : List Violation} {x document : Json} {items : List Json}

/-- The first name counts if it has a text, whatever stands under the others. -/
theorem firstText?_of_member? {name text : String} (h : x.member? name = some (.text text))
    (others : List String) : firstText? x (name :: others) = some text := by
  rw [firstText?, List.findSome?_cons, h]
  rfl

/-- Neither the place of an item nor the topic fills anything in. -/
theorem reported_of_isWrittenAs (h : v.IsWrittenAs x) (n : Nat) : reported t n x = v := by
  cases x with
  | object ms =>
      have hseverity : Severity.ofDocument? v.severity.toJson.toDocument = some v.severity :=
        Severity.ofName?_name v.severity
      have haction : Action.ofDocument? v.action.toJson.toDocument = some v.action :=
        Action.ofName?_name v.action
      simp only [reported, firstText?_of_member? h.ruleId, firstText?_of_member? h.message,
        firstText?_of_member? h.package, h.severity, h.action, Option.bind_some, hseverity, haction,
        Option.getD_some]
  | _ => exact absurd h.ruleId (Option.some_ne_none _).symm

theorem mapIdx_eq_of_forall₂ {read : Nat → Json → Violation}
    (hread : ∀ n v x, v.IsWrittenAs x → read n x = v)
    (h : List.Forall₂ Violation.IsWrittenAs vs items) : items.mapIdx read = vs := by
  induction h generalizing read with
  | nil => rfl
  | @cons v x vs items hx _ ih =>
      rw [List.mapIdx_cons, hread 0 v x hx, ih fun n => hread (n + 1)]

theorem reportedAll_of_forall₂ (h : List.Forall₂ Violation.IsWrittenAs vs items) :
    reportedAll t items = vs :=
  mapIdx_eq_of_forall₂ (fun n _ _ hx => reported_of_isWrittenAs hx (n + 1)) h

theorem decided_of_reports (h : Reports document items) :
    decided t document = reportedAll t items := by
  rcases h with h | ⟨result, h, hitems⟩
  · rw [decided, h]
  · cases result with
    | object members =>
        have hlookup : members.lookup "violations" = some (.array items) := hitems
        rw [decided, h]
        simp only [hlookup]
    | _ => exact absurd hitems (Option.some_ne_none _).symm

theorem decided_of_forall₂ (t : Topic) (hitems : List.Forall₂ Violation.IsWrittenAs vs items)
    (h : Reports document items) : decided t document = vs := by
  rw [decided_of_reports h, reportedAll_of_forall₂ hitems]

/-- An engine that a call brings violations has them in its verdict, whatever its topic. -/
theorem Remote.evaluate_of_forall₂ (hitems : List.Forall₂ Violation.IsWrittenAs vs items)
    (h : Reports document items) {call : Exchange} (hcall : call.Brings document) (e : Remote) :
    e.evaluate call = .ofViolations vs := by
  rw [evaluate_of_brings hcall, decided_of_forall₂ e.topic hitems h]

/-- Violations that are given out, as they are or with further members, are decided by every
document that reports them. -/
theorem decided_eq_of_isWrittenAs (t : Topic) (vs : List Violation) :
    List.Forall₂ Violation.IsWrittenAs vs (vs.map Violation.toJson) ∧
    (∀ (v : Violation) ms name value, v.IsWrittenAs (.object ms) → name ∉ Violation.memberNames →
      v.IsWrittenAs (.object (Json.putMember name value ms))) ∧
    ∀ items document, List.Forall₂ Violation.IsWrittenAs vs items → Reports document items →
      decided t document = vs := by
  refine ⟨?_, fun v ms name value h hname => h.putMember hname value,
    fun items document => decided_of_forall₂ t⟩
  rw [List.forall₂_map_right_iff]
  exact List.forall₂_same.mpr fun v _ => v.isWrittenAs_toJson

/-- Other names for the members, a list under a head and a second list stand beside them. -/
theorem decided_beside_other_members :
    let v : Violation := ⟨"cost-1", "over budget", .low, .requireApproval, "cost"⟩
    let w : Violation := ⟨"", "", .critical, .notify, ""⟩
    let members : List (String × Json) :=
      [("action", .text "require_approval"), ("message", .text "over budget"),
        ("msg", .text "other"), ("package", .text "cost"), ("ruleId", .text "cost-1"),
        ("severity", .text "low")]
    let items : List Json := [.object (Json.putMember "id" (.text "other") members), w.toJson]
    let document : Json := .object
      [("result", .object [("deny", .array [.text "other"]), ("violations", .array items)]),
        ("violations", .array [])]
    "id" ∉ Violation.memberNames ∧ v.IsWrittenAs (.object members) ∧
      List.Forall₂ Violation.IsWrittenAs [v, w] items ∧ Reports document items ∧
      decided ⟨"infra", "warn"⟩ document = [v, w] := by
  intro v w members items document
  obtain ⟨hwritten, hput, hdecided⟩ := decided_eq_of_isWrittenAs ⟨"infra", "warn"⟩ [v, w]
  have hid : "id" ∉ Violation.memberNames := by decide
  have hmembers : v.IsWrittenAs (.object members) := ⟨rfl, rfl, rfl, rfl, rfl⟩
  have hitems : List.Forall₂ Violation.IsWrittenAs [v, w] items :=
    .cons (hput v members "id" (.text "other") hmembers hid) (List.forall₂_cons.mp hwritten).2
  have hreports : Reports document items := .inr ⟨_, rfl, rfl⟩
  exact ⟨hid, hmembers, hitems, hreports, hdecided items document hitems hreports⟩

end Guardrail.Engine
