import Guardrail.Proofs.Condition.Names
import Guardrail.Proofs.Message.Placeholders
import Guardrail.Proofs.Policy.Evaluation

/-!
# What an outcome depends on

A policy names fields and tags in the conditions of its rules, and paths in their messages. Its
outcome is the same on any two records that agree on these and on the attributes of the resource.
-/

namespace Guardrail

theorem Rule.result_eq_of_alike {rule : Rule} {data data' : FlatRecord} {view view' : ResourceView}
    (hcondition : Condition.Alike rule.condition.fields rule.condition.tags data data' view view')
    (hmessage : ∀ path, Message.Names rule.message path → data.get? path = data'.get? path) :
    rule.result data view = rule.result data' view' := by
  simp only [result, Condition.holds_eq_of_alike _ hcondition, Message.render_congr hmessage]

namespace Policy

/-- The fields that the rules of a policy name in their conditions. -/
def fields (p : Policy) : List String :=
  p.rules.flatMap fun rule => rule.condition.fields

/-- The tags that the rules of a policy name in their conditions. -/
def tags (p : Policy) : List String :=
  p.rules.flatMap fun rule => rule.condition.tags

/-- Two records that differ at most in what a policy does not name. -/
structure Conflates (p : Policy) (levels : Nat) (record record' : Json) : Prop where
  fields : (FlatRecord.ofJson levels record).AgreeOn p.fields (FlatRecord.ofJson levels record')
  placeholders : ∀ rule ∈ p.rules, ∀ path, Message.Names rule.message path →
    (FlatRecord.ofJson levels record).get? path = (FlatRecord.ofJson levels record').get? path
  resource : (ResourceView.ofRecord record).AgreeOn p.tags (ResourceView.ofRecord record')

variable {p : Policy} {levels : Nat} {record record' : Json}

theorem Conflates.alike (h : p.Conflates levels record record') {rule : Rule}
    (hrule : rule ∈ p.rules) :
    Condition.Alike rule.condition.fields rule.condition.tags
      (FlatRecord.ofJson levels record) (FlatRecord.ofJson levels record')
      (ResourceView.ofRecord record) (ResourceView.ofRecord record') where
  data := h.fields.mono fun _ hfield => List.mem_flatMap_of_mem hrule hfield
  view := h.resource.mono fun _ htag => List.mem_flatMap_of_mem hrule htag

theorem results_eq_of_conflates (h : p.Conflates levels record record') :
    p.results levels record = p.results levels record' :=
  List.map_congr_left fun rule hrule =>
    rule.result_eq_of_alike (h.alike hrule) (h.placeholders rule hrule)

/-- The outcome of a policy depends on what the policy names alone. -/
theorem evaluate_eq_of_conflates (h : p.Conflates levels record record') :
    p.evaluate levels record = p.evaluate levels record' := by
  by_cases henabled : p.enabled = true
  · rw [evaluate_of_enabled henabled, evaluate_of_enabled henabled, results_eq_of_conflates h]
  · simp only [evaluate, henabled, Bool.false_eq_true, if_false]

/-- Neither a tag that no condition names nor a member that no placeholder leads to matters. -/
theorem evaluate_eq_beside_other_names :
    let condition := Condition.all [.equals "env" (.text "prod"), .not (.tagMissing "owner")]
    let p := new "owned" "Owned" [.new "r" condition .warn "{{env}} of {{ tags.owner }}"]
    let record := Json.object
      [("env", .text "prod"), ("size", .number (.int 1)),
        ("tags", .object [("owner", .text "ops"), ("team", .text "a")])]
    let record' := Json.object
      [("env", .text "prod"), ("tags", .object [("owner", .text "ops"), ("team", .text "b")])]
    p.Conflates FlatRecord.defaultLevels record record' ∧
      p.evaluate FlatRecord.defaultLevels record = p.evaluate FlatRecord.defaultLevels record' := by
  intro condition p record record'
  have hpieces : Message.pieces "{{env}} of {{ tags.owner }}".toList =
      [.placeholder "env".toList, .literal ' ', .literal 'o', .literal 'f', .literal ' ',
        .placeholder "tags.owner".toList] := by
    decide +kernel
  have hnames : ∀ path, Message.Names "{{env}} of {{ tags.owner }}" path →
      path = "env" ∨ path = "tags.owner" := by
    intro path hpath
    rw [Message.names_iff, hpieces] at hpath
    simpa [← String.toList_inj] using hpath
  have h : p.Conflates FlatRecord.defaultLevels record record' :=
    { fields := by
        intro path hpath
        obtain rfl := List.mem_singleton.mp hpath
        rfl
      placeholders := by
        intro rule hrule path hpath
        obtain rfl := List.mem_singleton.mp hrule
        obtain rfl | rfl : path = "env" ∨ path = "tags.owner" := hnames path hpath
        · rfl
        · rfl
      resource := ⟨rfl, rfl, rfl, by
        intro tag htag
        obtain rfl := List.mem_singleton.mp htag
        rfl⟩ }
  exact ⟨h, evaluate_eq_of_conflates h⟩

end Policy

end Guardrail
