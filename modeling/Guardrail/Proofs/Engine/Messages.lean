import Guardrail.Proofs.Engine.Items
import Guardrail.Proofs.Json.Texts

/-!
# Messages of denials

A policy service that gives no decision is reported in words, and a value that is neither a text nor
an object is its own message. An item that says nothing is reported without a message, even where it
denies the change.
-/

namespace Guardrail.Engine

/-! ## Items that say nothing -/

/-- A value gives no message, or an empty one. -/
inductive Item.IsSilent : Json → Prop where
  | text : IsSilent (.text "")
  /-- A text under `message` counts, whatever stands under `msg`. -/
  | message {ms : List (String × Json)} (h : ms.lookup "message" = some (.text "")) :
      IsSilent (.object ms)
  | msg {ms : List (String × Json)} (hmessage : ∀ s, ms.lookup "message" ≠ some (.text s))
      (hmsg : ∀ s, ms.lookup "msg" = some (.text s) → s = "") : IsSilent (.object ms)

/-- A name without a text is passed over. -/
theorem firstText?_of_no_text {x : Json} {name : String}
    (h : ∀ s, x.member? name ≠ some (.text s)) (others : List String) :
    firstText? x (name :: others) = firstText? x others := by
  have hnone : (x.member? name).bind Json.text? = none := by
    cases hx : x.member? name with
    | none => rfl
    | some y =>
        cases y with
        | text s => exact absurd hx (h s)
        | _ => rfl
  rw [firstText?, List.findSome?_cons, hnone]
  rfl

/-- The first of several texts is empty or missing, seen from the first name. -/
theorem firstText?_cons_eq_empty_iff (x : Json) (name : String) (others : List String) :
    (firstText? x (name :: others)).getD "" = "" ↔
      x.member? name = some (.text "") ∨
        (∀ s, x.member? name ≠ some (.text s)) ∧ (firstText? x others).getD "" = "" := by
  by_cases htext : ∃ s, x.member? name = some (.text s)
  · obtain ⟨s, hs⟩ := htext
    rw [firstText?_of_member? hs, Option.getD_some]
    constructor
    · rintro rfl
      exact .inl hs
    · rintro (hempty | ⟨hno, -⟩)
      · exact Json.text.inj (Option.some.inj (hs.symm.trans hempty))
      · exact absurd hs (hno s)
  · have hno : ∀ s, x.member? name ≠ some (.text s) := fun s hs => htext ⟨s, hs⟩
    rw [firstText?_of_no_text hno]
    constructor
    · exact fun h => .inr ⟨hno, h⟩
    · rintro (hempty | ⟨-, h⟩)
      · exact absurd hempty (hno "")
      · exact h

theorem firstText?_eq_empty_iff (ms : List (String × Json)) :
    (firstText? (.object ms) ["message", "msg"]).getD "" = "" ↔ Item.IsSilent (.object ms) := by
  rw [firstText?_cons_eq_empty_iff, firstText?_cons_eq_empty_iff]
  constructor
  · rintro (hempty | ⟨hmessage, hempty | ⟨hmsg, -⟩⟩)
    · exact .message hempty
    · exact .msg hmessage fun s hs =>
        Json.text.inj (Option.some.inj (hs.symm.trans hempty))
    · exact .msg hmessage fun s hs => absurd hs (hmsg s)
  · intro h
    cases h with
    | message h => exact .inl h
    | msg hmessage hmsg =>
        refine .inr ⟨hmessage, ?_⟩
        by_cases htext : ∃ s, ms.lookup "msg" = some (.text s)
        · obtain ⟨s, hs⟩ := htext
          obtain rfl := hmsg s hs
          exact .inl hs
        · exact .inr ⟨fun s hs => htext ⟨s, hs⟩, rfl⟩

theorem message_reported_eq_empty_iff (t : Topic) (n : Nat) (x : Json) :
    (reported t n x).message = "" ↔ Item.IsSilent x := by
  cases x with
  | object ms => exact firstText?_eq_empty_iff ms
  | text s =>
      constructor
      · intro h
        obtain rfl : s = "" := h
        exact .text
      · intro h
        cases h
        rfl
  | _ => exact iff_of_false (Json.render_ne_empty _) nofun

/-! ## Items of a document -/

namespace Item

/-- The action that an item names, or else the one of its topic. -/
def action (i : Item) : Action :=
  ((i.value.member? "action").bind fun x => Action.ofDocument? x.toDocument).getD i.topic.outcome.2

/-- An item stands in a document: in its list or, if it has none, in a list under a head that means
something. -/
inductive StandsIn (t : Topic) (document : Json) (i : Item) : Prop where
  | listed {values : List Json} (h : Reports document values) (hi : i ∈ number t values)
  | headed {members : List (String × Json)} {head : String} {values : List Json}
      (h : document.member? "result" = some (.object members))
      (hno : ∀ others, members.lookup "violations" ≠ some (.array others))
      (hhead : (head, .array values) ∈ members) (hmeans : (Rego.headMapping? head).isSome = true)
      (hi : i ∈ number ⟨t.package, head⟩ values)

theorem action_reported (i : Item) : (reported i.topic i.place i.value).action = i.action := by
  obtain ⟨t, n, x⟩ := i
  cases x <;> rfl

end Item

variable {t : Topic} {document : Json} {v : Violation}

theorem mem_reportedAll_iff {values : List Json} :
    v ∈ reportedAll t values ↔
      ∃ i ∈ Item.number t values, reported i.topic i.place i.value = v := by
  rw [reportedAll_eq_map, List.mem_map]

theorem mem_reportedByHead_iff {package : String} {members : List (String × Json)} :
    v ∈ reportedByHead package members ↔
      ∃ head values, (head, .array values) ∈ members ∧ (Rego.headMapping? head).isSome = true ∧
        v ∈ reportedAll ⟨package, head⟩ values := by
  rw [reportedByHead_eq_flatMap, List.mem_flatMap]
  constructor
  · rintro ⟨⟨head, values⟩, hlist, hv⟩
    obtain ⟨m, hm, hheaded⟩ := List.mem_filterMap.mp hlist
    obtain ⟨rfl, hmeans⟩ := headed?_eq_some_iff.mp hheaded
    exact ⟨head, values, hm, hmeans, hv⟩
  · rintro ⟨head, values, hm, hmeans, hv⟩
    have hheaded : headed? (head, .array values) = some (head, values) :=
      headed?_eq_some_iff.mpr ⟨rfl, hmeans⟩
    exact ⟨(head, values), List.mem_filterMap.mpr ⟨_, hm, hheaded⟩, hv⟩

/-- A document reports a list, has an object without one as its result, or no result to go by. -/
theorem reports_or_headed_or_bare (document : Json) :
    (∃ values, Reports document values) ∨
    (∃ members, document.member? "result" = some (.object members) ∧
      ∀ values, members.lookup "violations" ≠ some (.array values)) ∨
    ((∀ values, document.member? "result" ≠ some (.array values)) ∧
      ∀ members, document.member? "result" ≠ some (.object members)) := by
  by_cases hlist : ∃ values, Reports document values
  · exact .inl hlist
  · by_cases hobject : ∃ members, document.member? "result" = some (.object members)
    · obtain ⟨members, h⟩ := hobject
      exact .inr (.inl ⟨members, h, fun values hvalues => hlist ⟨values, .inr ⟨_, h, hvalues⟩⟩⟩)
    · exact .inr (.inr ⟨fun values h => hlist ⟨values, .inl h⟩,
        fun members h => hobject ⟨members, h⟩⟩)

/-- A decision consists of what the items of its document report. -/
theorem mem_decided_iff :
    v ∈ decided t document ↔
      ∃ i : Item, i.StandsIn t document ∧ reported i.topic i.place i.value = v := by
  constructor
  · intro hv
    rcases reports_or_headed_or_bare document with
      ⟨values, h⟩ | ⟨members, h, hno⟩ | ⟨harray, hobject⟩
    · rw [decided_of_reports h] at hv
      obtain ⟨i, hi, hreported⟩ := mem_reportedAll_iff.mp hv
      exact ⟨i, .listed h hi, hreported⟩
    · rw [decided_of_no_list h hno] at hv
      obtain ⟨head, values, hhead, hmeans, hv⟩ := mem_reportedByHead_iff.mp hv
      obtain ⟨i, hi, hreported⟩ := mem_reportedAll_iff.mp hv
      exact ⟨i, .headed h hno hhead hmeans hi, hreported⟩
    · rw [decided_of_no_result harray hobject] at hv
      exact absurd hv List.not_mem_nil
  · rintro ⟨i, hstands, hreported⟩
    cases hstands with
    | listed h hi =>
        rw [decided_of_reports h]
        exact mem_reportedAll_iff.mpr ⟨i, hi, hreported⟩
    | headed h hno hhead hmeans hi =>
        rw [decided_of_no_list h hno]
        exact mem_reportedByHead_iff.mpr
          ⟨_, _, hhead, hmeans, mem_reportedAll_iff.mpr ⟨i, hi, hreported⟩⟩

/-! ## Verdicts -/

/-- Every violation that denies says why. -/
def Verdict.ExplainsDenials (verdict : Verdict) : Prop :=
  ∀ v ∈ verdict.violations, v.action = .deny → v.message ≠ ""

namespace Remote

theorem explainsDenials_onFailure (e : Remote) (failure : Failure) :
    (e.onFailure failure).ExplainsDenials := by
  intro v hv _
  cases hmode : e.config.failMode with
  | lenient =>
      rw [violations_onFailure_lenient hmode] at hv
      exact absurd hv List.not_mem_nil
  | strict =>
      rw [violations_onFailure_strict hmode] at hv
      obtain rfl := List.mem_singleton.mp hv
      simp [unavailable]

theorem explainsDenials_ofViolations_decided_iff :
    (Verdict.ofViolations (decided t document)).ExplainsDenials ↔
      ∀ i : Item, i.StandsIn t document → i.action = .deny → ¬ Item.IsSilent i.value := by
  constructor
  · intro h i hstands haction hsilent
    refine h (reported i.topic i.place i.value) (mem_decided_iff.mpr ⟨i, hstands, rfl⟩) ?_ ?_
    · rw [i.action_reported, haction]
    · exact (message_reported_eq_empty_iff _ _ _).mpr hsilent
  · intro h v hv haction hmessage
    obtain ⟨i, hstands, rfl⟩ := mem_decided_iff.mp hv
    rw [i.action_reported] at haction
    exact h i hstands haction ((message_reported_eq_empty_iff _ _ _).mp hmessage)

/-- Whatever comes of a call, every denial in the verdict has a message, unless the service itself
reports an item that denies and says nothing. -/
theorem explainsDenials_ask_iff (c : RemoteConfig) (post : String → Json → Exchange) (r : Request) :
    ((new c).ask post r).ExplainsDenials ↔
      ∀ document, (post (c.url c.policyPath) (question r)).Brings document →
        ∀ i : Item, i.StandsIn (.ofPath c.policyPath) document → i.action = .deny →
          ¬ Item.IsSilent i.value := by
  let call := post (c.url c.policyPath) (question r)
  have hask : (new c).ask post r = (new c).evaluate call := rfl
  rw [hask]
  by_cases hbrings : ∃ document, call.Brings document
  · constructor
    · intro h document hdocument
      rw [evaluate_of_brings hdocument] at h
      exact explainsDenials_ofViolations_decided_iff.mp h
    · intro h
      obtain ⟨document, hdocument⟩ := hbrings
      rw [evaluate_of_brings hdocument]
      exact explainsDenials_ofViolations_decided_iff.mpr (h document hdocument)
  · obtain ⟨failure, hfailure⟩ : ∃ failure, (new c).evaluate call = (new c).onFailure failure :=
      exists_evaluate_eq_onFailure hbrings
    rw [hfailure]
    exact iff_of_true (explainsDenials_onFailure _ failure)
      fun document hdocument => absurd ⟨document, hdocument⟩ hbrings

/-- An item that gives its rule and no message, under a head that denies. -/
theorem not_explainsDenials_of_bare_rule :
    let c : RemoteConfig :=
      { RemoteConfig.new "http://stub" with policyPath := "v1/data/infra/deny" }
    let body := "\x7b\"result\":[\x7b\"ruleId\":\"cost-1\"\x7d]\x7d"
    let verdict := (new c).ask (fun _ _ => .answered 200 body) ⟨.object [], default⟩
    verdict.violations = [⟨"cost-1", "", .critical, .deny, "infra"⟩] ∧
      ¬ verdict.ExplainsDenials := by
  intro c body verdict
  have hviolations : verdict.violations = [⟨"cost-1", "", .critical, .deny, "infra"⟩] := by
    decide +kernel
  refine ⟨hviolations, fun h => ?_⟩
  exact h _ (hviolations ▸ List.mem_singleton_self _) rfl rfl

end Remote

end Guardrail.Engine
