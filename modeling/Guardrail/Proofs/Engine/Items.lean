import Guardrail.Proofs.Engine.Decisions
import Mathlib.Data.List.Forall2

/-!
# Items of decision documents

Every item of a decision becomes one violation, whatever value it is and wherever its list stands.
What an item does not give of itself comes from its topic and its place.
-/

namespace Guardrail.Engine

/-! ## Items and violations -/

/-- A reported value, the topic that it is reported under, and its place in the list from one. -/
structure Item where
  topic : Topic
  place : Nat
  value : Json

namespace Item

/-- The items that a list of values makes. -/
def number (t : Topic) (values : List Json) : List Item :=
  values.mapIdx fun i x => ⟨t, i + 1, x⟩

/-- A value has no member of a name, or has a text there that is not one of several. -/
def Omits (x : Json) (member : String) (names : List String) : Prop :=
  x.member? member = none ∨ ∃ s, x.member? member = some (.text s) ∧ s ∉ names

/-- What a violation says of an item. -/
structure Yields (i : Item) (v : Violation) : Prop where
  ruleId : v.ruleId = (firstText? i.value ["ruleId", "rule_id", "id"]).getD (i.topic.itemId i.place)
  package : v.package = (firstText? i.value ["package"]).getD i.topic.package
  text : ∀ s, i.value = .text s → v.message = s
  object : ∀ ms, i.value = .object ms →
    v.message = (firstText? i.value ["message", "msg"]).getD ""
  other : (∀ s, i.value ≠ .text s) → (∀ ms, i.value ≠ .object ms) → v.message = i.value.render
  /-- A value that is no object leaves severity and action to the topic. -/
  plain : (∀ ms, i.value ≠ .object ms) → (v.severity, v.action) = i.topic.outcome
  severity_of_omits : Omits i.value "severity" (Severity.all.map Severity.name) →
    v.severity = i.topic.outcome.1
  action_of_omits : Omits i.value "action" (Action.all.map Action.name) →
    v.action = i.topic.outcome.2

end Item

/-- What is left to a topic: what its head means, or a denial of high severity. -/
theorem Topic.outcome_eq_iff (t : Topic) {severity : Severity} {action : Action} :
    t.outcome = (severity, action) ↔ Rego.headMapping? t.head = some (severity, action) ∨
      (Rego.headMapping? t.head = none ∧ severity = .high ∧ action = .deny) := by
  unfold outcome
  cases Rego.headMapping? t.head with
  | none => simp [eq_comm]
  | some x => simp

/-- A member that is left out or names nothing is no choice. -/
theorem Item.Omits.bind_choice?_eq_none {α : Type} {x : Json} {member : String} {all : List α}
    {name : α → String} (h : Omits x member (all.map name)) :
    ((x.member? member).bind fun y =>
      Document.choice? (fun s => all.find? (name · = s)) y.toDocument) = none := by
  rcases h with h | ⟨s, h, hs⟩
  · rw [h, Option.bind_none]
  · rw [h, Option.bind_some]
    have hnone : all.find? (name · = s) = none := by
      rw [List.find?_eq_none]
      intro a ha hname
      exact hs (List.mem_map.mpr ⟨a, ha, of_decide_eq_true hname⟩)
    exact hnone

theorem Item.yields_reported (i : Item) : i.Yields (reported i.topic i.place i.value) := by
  obtain ⟨t, n, x⟩ := i
  cases x with
  | object ms =>
      exact
        { ruleId := rfl
          package := rfl
          text := nofun
          object := fun _ _ => rfl
          other := fun _ hobject => absurd rfl (hobject ms)
          plain := fun hobject => absurd rfl (hobject ms)
          severity_of_omits := fun h => congrArg (Option.getD · t.outcome.1) h.bind_choice?_eq_none
          action_of_omits := fun h => congrArg (Option.getD · t.outcome.2) h.bind_choice?_eq_none }
  | text s =>
      exact ⟨rfl, rfl, fun _ h => Json.text.inj h, nofun, fun h => absurd rfl (h s), fun _ => rfl,
        fun _ => rfl, fun _ => rfl⟩
  | _ => exact ⟨rfl, rfl, nofun, nofun, fun _ _ => rfl, fun _ => rfl, fun _ => rfl, fun _ => rfl⟩

theorem reportedAll_eq_map (t : Topic) (values : List Json) :
    reportedAll t values =
      (Item.number t values).map fun i => reported i.topic i.place i.value := by
  rw [reportedAll, Item.number, List.mapIdx_eq_zipIdx_map, List.mapIdx_eq_zipIdx_map,
    List.map_map]
  rfl

theorem forall₂_yields_map (items : List Item) :
    List.Forall₂ Item.Yields items (items.map fun i => reported i.topic i.place i.value) := by
  rw [List.forall₂_map_right_iff]
  exact List.forall₂_same.mpr fun i _ => i.yields_reported

/-! ## Lists under heads -/

/-- The lists that stand under heads that mean something, by ascending head. -/
structure IsHeaded (members : List (String × Json)) (lists : List (String × List Json)) :
    Prop where
  ascending : lists.Pairwise (·.1 < ·.1)
  mem_iff : ∀ head values, (head, values) ∈ lists ↔
    members.lookup head = some (.array values) ∧ (Rego.headMapping? head).isSome = true

/-- The list that a member has under a head that means something. -/
def headed? (m : String × Json) : Option (String × List Json) :=
  match Rego.headMapping? m.1, m.2 with
  | some _, .array values => some (m.1, values)
  | _, _ => none

theorem headed?_eq_some_iff {m : String × Json} {head : String} {values : List Json} :
    headed? m = some (head, values) ↔
      m = (head, .array values) ∧ (Rego.headMapping? head).isSome = true := by
  obtain ⟨name, x⟩ := m
  constructor
  · intro h
    unfold headed? at h
    split at h
    next outcome items hmapping hx =>
      obtain ⟨rfl, rfl⟩ := Prod.mk.inj (Option.some.inj h)
      exact ⟨Prod.ext rfl hx, Option.isSome_of_eq_some hmapping⟩
    next => contradiction
  · rintro ⟨hm, hmapping⟩
    obtain ⟨rfl, rfl⟩ := Prod.mk.inj hm
    obtain ⟨outcome, hmapping⟩ := Option.isSome_iff_exists.mp hmapping
    simp only [headed?, hmapping]

theorem reportedByHead_eq_flatMap (package : String) (members : List (String × Json)) :
    reportedByHead package members =
      (members.filterMap headed?).flatMap fun list => reportedAll ⟨package, list.1⟩ list.2 := by
  rw [List.filterMap_eq_flatMap_toList, List.flatMap_assoc, reportedByHead]
  refine List.flatMap_congr fun m _ => ?_
  obtain ⟨head, x⟩ := m
  unfold headed?
  cases hmapping : Rego.headMapping? head with
  | none => simp only [hmapping, Option.toList_none, List.flatMap_nil]
  | some outcome =>
      cases x with
      | array values => simp only [hmapping, Option.toList_some, List.flatMap_singleton]
      | _ => simp only [hmapping, Option.toList_none, List.flatMap_nil]

theorem isHeaded_filterMap {members : List (String × Json)}
    (h : members.Pairwise (·.1 < ·.1)) : IsHeaded members (members.filterMap headed?) where
  ascending := by
    refine h.filterMap headed? fun m m' hlt list hlist list' hlist' => ?_
    obtain ⟨rfl, -⟩ := headed?_eq_some_iff.mp hlist
    obtain ⟨rfl, -⟩ := headed?_eq_some_iff.mp hlist'
    exact hlt
  mem_iff := by
    intro head values
    rw [← Json.mem_iff_lookup h, List.mem_filterMap]
    constructor
    · rintro ⟨m, hm, hlist⟩
      obtain ⟨rfl, hmapping⟩ := headed?_eq_some_iff.mp hlist
      exact ⟨hm, hmapping⟩
    · rintro ⟨hm, hmapping⟩
      exact ⟨_, hm, headed?_eq_some_iff.mpr ⟨rfl, hmapping⟩⟩

/-! ## Decisions -/

variable {t : Topic} {document : Json} {members : List (String × Json)}

theorem decided_of_no_list (h : document.member? "result" = some (.object members))
    (hno : ∀ values, members.lookup "violations" ≠ some (.array values)) :
    decided t document = reportedByHead t.package members := by
  rw [decided, h]
  dsimp only
  split
  next values hvalues => exact absurd hvalues (hno values)
  next => rfl

theorem decided_of_no_result (harray : ∀ values, document.member? "result" ≠ some (.array values))
    (hobject : ∀ members, document.member? "result" ≠ some (.object members)) :
    decided t document = [] := by
  rw [decided]
  split
  next values hvalues => exact absurd hvalues (harray values)
  next members hmembers => exact absurd hmembers (hobject members)
  next => rfl

/-- A decision yields a violation for each item of its list, or of the lists under its heads, and no
other. An item that does not name its severity or its action leaves it to the head, and to a denial
of high severity where the head means nothing. -/
theorem yields_every_item (t : Topic) (document : Json) :
    (∀ values, Reports document values →
      List.Forall₂ Item.Yields (Item.number t values) (decided t document)) ∧
    (∀ members, document.isOrdered = true →
      document.member? "result" = some (.object members) →
      (∀ values, members.lookup "violations" ≠ some (.array values)) →
      ∃ lists, IsHeaded members lists ∧
        List.Forall₂ Item.Yields
          (lists.flatMap fun list => Item.number ⟨t.package, list.1⟩ list.2)
          (decided t document)) ∧
    ((∀ values, document.member? "result" ≠ some (.array values)) →
      (∀ members, document.member? "result" ≠ some (.object members)) →
      decided t document = []) ∧
    ∀ (topic : Topic) (severity : Severity) (action : Action),
      topic.outcome = (severity, action) ↔
        Rego.headMapping? topic.head = some (severity, action) ∨
          (Rego.headMapping? topic.head = none ∧ severity = .high ∧ action = .deny) := by
  refine ⟨fun values h => ?_, fun members hordered h hno => ?_, decided_of_no_result,
    fun topic _ _ => topic.outcome_eq_iff⟩
  · rw [decided_of_reports h, reportedAll_eq_map]
    exact forall₂_yields_map _
  · have hmembers : members.Pairwise (·.1 < ·.1) :=
      (Json.isOrdered_object.mp (Json.isOrdered_of_member? hordered h)).1
    refine ⟨members.filterMap headed?, isHeaded_filterMap hmembers, ?_⟩
    rw [decided_of_no_list h hno, reportedByHead_eq_flatMap]
    simp only [reportedAll_eq_map, ← List.map_flatMap]
    exact forall₂_yields_map _

/-- Lists stand under two heads, beside one that means nothing and a text; elsewhere the list or the
whole result does not stand under a head. -/
theorem yields_items_of_two_heads :
    let denials : List Json :=
      [.null, .object [("msg", .text "open port"), ("severity", .text "grave")]]
    let warnings : List Json := [.object [("action", .text "notify"), ("id", .text "w-1")]]
    let members : List (String × Json) :=
      [("allow", .array [.null]), ("deny", .array denials), ("notify", .text "team"),
        ("warn", .array warnings)]
    let document : Json := .object [("result", .object members)]
    let listed : Json := .object [("result", .array [.bool true])]
    let bare : Json := .object [("result", .text "deny")]
    let t : Topic := ⟨"infra", "main"⟩
    document.isOrdered = true ∧
      (∀ values, members.lookup "violations" ≠ some (.array values)) ∧
      (∃ lists, IsHeaded members lists ∧ ("deny", denials) ∈ lists ∧ ("warn", warnings) ∈ lists ∧
        List.Forall₂ Item.Yields (lists.flatMap fun list => Item.number ⟨t.package, list.1⟩ list.2)
          (decided t document)) ∧
      decided t document =
        [⟨"infra.deny_1", "null", .critical, .deny, "infra"⟩,
          ⟨"infra.deny_2", "open port", .critical, .deny, "infra"⟩,
          ⟨"w-1", "", .medium, .notify, "infra"⟩] ∧
      Reports listed [.bool true] ∧
      (∃ v, decided t listed = [v] ∧ v.message = "true" ∧ v.severity = .high ∧ v.action = .deny) ∧
      decided t bare = [] := by
  intro denials warnings members document listed bare t
  obtain ⟨-, hheads, -, -⟩ := yields_every_item t document
  obtain ⟨hreported, -, -, houtcome⟩ := yields_every_item t listed
  obtain ⟨-, -, hnone, -⟩ := yields_every_item t bare
  have hordered : document.isOrdered = true := by decide +kernel
  have hno : ∀ values, members.lookup "violations" ≠ some (.array values) :=
    fun _ => (Option.some_ne_none _).symm
  obtain ⟨lists, hlists, hyields⟩ := hheads members hordered rfl hno
  have hreports : Reports listed [.bool true] := .inl rfl
  obtain ⟨v, vs, hv, hvs, hdecided⟩ :=
    List.forall₂_cons_left_iff.mp (hreported [.bool true] hreports)
  rw [List.forall₂_nil_left_iff.mp hvs] at hdecided
  have hhead : t.outcome = (.high, .deny) := (houtcome t .high .deny).mpr (.inr ⟨rfl, rfl, rfl⟩)
  obtain ⟨hseverity, haction⟩ := Prod.mk.inj ((hv.plain nofun).trans hhead)
  exact ⟨hordered, hno,
    ⟨lists, hlists, (hlists.mem_iff _ _).mpr ⟨rfl, rfl⟩, (hlists.mem_iff _ _).mpr ⟨rfl, rfl⟩,
      hyields⟩,
    by decide +kernel, hreports, ⟨v, hdecided, hv.other nofun nofun, hseverity, haction⟩,
    hnone (fun _ h => Json.noConfusion (Option.some.inj h)) fun _ h =>
      Json.noConfusion (Option.some.inj h)⟩

end Guardrail.Engine
