import Guardrail.Proofs.Condition.Serialization
import Guardrail.Rego.LocalRule
import Mathlib.Data.List.Forall2

/-!
# Spellings of policies

What goes for conditions goes for the rules and policies that hold them: whatever is left out where
it has its default, and however the conditions are spelled, the policy is read as it was meant.
-/

namespace Guardrail

open Document

/-! ## Spellings -/

/-- A member with a value; if that is the default, the member may be left out. -/
def Json.Gives {α : Type} (x : Json) (name : String) (write : α → Json) (a default : α) : Prop :=
  x.member? name = some (write a) ∨ a = default ∧ x.member? name = none

variable (writes : Number → Float → Prop)

/-- A value spells a rule. -/
structure Rule.IsWrittenAs (r : Rule) (x : Json) : Prop where
  id : x.member? "id" = some (.text r.id)
  description : x.Gives "description" .text r.description ""
  condition : ∃ y, x.member? "condition" = some y ∧ r.condition.IsWrittenAs writes y
  severity : x.Gives "severity" Severity.toJson r.severity .medium
  action : x.member? "action" = some r.action.toJson
  message : x.member? "message" = some (.text r.message)

/-- A value spells a policy. -/
structure Policy.IsWrittenAs (p : Policy) (x : Json) : Prop where
  id : x.member? "id" = some (.text p.id)
  name : x.member? "name" = some (.text p.name)
  description : x.Gives "description" .text p.description ""
  enabled : x.Gives "enabled" .bool p.enabled true
  rules : ∃ items, x.member? "rules" = some (.array items) ∧
    List.Forall₂ (Rule.IsWrittenAs writes) p.rules items

/-- A value spells a rule that was written as policy text: it names the package, and the severity
has no default. -/
structure Rego.LocalRule.IsWrittenAs (r : Rego.LocalRule) (x : Json) : Prop where
  rule : r.toRule.IsWrittenAs writes x
  package : x.member? "package" = some (.text r.package)
  severity : x.member? "severity" = some r.severity.toJson

/-- The rule with other bounds in its condition. -/
def Rule.mapBounds (g : Float → Float) (r : Rule) : Rule :=
  { r with condition := r.condition.mapBounds g }

/-- The policy with other bounds in its conditions. -/
def Policy.mapBounds (g : Float → Float) (p : Policy) : Policy :=
  { p with rules := p.rules.map (Rule.mapBounds g) }

/-- The rule with other bounds in its condition. -/
def Rego.LocalRule.mapBounds (g : Float → Float) (r : Rego.LocalRule) : Rego.LocalRule :=
  { r with condition := r.condition.mapBounds g }

theorem Rule.mapBounds_self (r : Rule) : r.mapBounds (fun x => x) = r := by
  rw [mapBounds, Condition.mapBounds_self]

theorem Policy.mapBounds_self (p : Policy) : p.mapBounds (fun x => x) = p := by
  have hrules : p.rules.map (Rule.mapBounds fun x => x) = p.rules :=
    List.map_id'' Rule.mapBounds_self p.rules
  rw [mapBounds, hrules]

theorem Rego.LocalRule.mapBounds_self (r : Rego.LocalRule) : r.mapBounds (fun x => x) = r := by
  rw [mapBounds, Condition.mapBounds_self]

/-! ## Reading a spelling -/

variable {writes} {g : Float → Float}

/-- What the fields of a rule are read as; the bounds in its condition count only as far as `g` tells
them apart. -/
structure Rule.Fills (r : Rule) (g : Float → Float) (inner : Bool) (f : Fields) : Prop where
  id : f.required? "id" text? = some r.id
  description : f.orElse? "description" "" text? = some r.description
  condition : ∃ c, f.required? "condition" (Condition.ofDocument? inner) = some c ∧
    c.mapBounds g = r.condition.mapBounds g
  severity : f.orElse? "severity" .medium Severity.ofDocument? = some r.severity
  action : f.required? "action" Action.ofDocument? = some r.action
  message : f.required? "message" text? = some r.message

theorem Rule.fills_of_isWrittenAs (hwrites : ∀ n x, writes n x → g n.toFloat = g x) {r : Rule}
    {x : Json} (hx : x.IsProper) (h : r.IsWrittenAs writes x) {f : Fields} {names : List String}
    (hshows : f.Shows names x)
    (hnames : ["id", "description", "condition", "severity", "action", "message"] ⊆ names)
    (inner : Bool) : r.Fills g inner f := by
  obtain ⟨y, hy, hcondition⟩ := h.condition
  obtain ⟨c, hc, hbounds⟩ := Condition.exists_ofDocument?_of_isWrittenAs hwrites
    (hx.of_member? hy) hcondition inner
  exact
    { id := hshows.required? (hnames (by decide)) h.id text?
      description := hshows.orElse?_eq (hnames (by decide)) h.description text? rfl
      condition := ⟨c, (hshows.required? (hnames (by decide)) hy _).trans hc, hbounds⟩
      severity := hshows.orElse?_eq (hnames (by decide)) h.severity Severity.ofDocument?
        (Severity.ofName?_name _)
      action := (hshows.required? (hnames (by decide)) h.action _).trans (Action.ofName?_name _)
      message := hshows.required? (hnames (by decide)) h.message text? }

theorem Rule.exists_ofDocument?_of_isWrittenAs (hwrites : ∀ n x, writes n x → g n.toFloat = g x)
    {r : Rule} {x : Json} (hx : x.IsProper) (h : r.IsWrittenAs writes x) :
    ∃ r', ofDocument? x.toDocument = some r' ∧ r'.mapBounds g = r.mapBounds g := by
  obtain ⟨f, hf, hshows⟩ := exists_fields?_of_member? hx.ordered h.id
    ["id", "description", "condition", "severity", "action", "message"]
  have hfills := fills_of_isWrittenAs hwrites hx h hshows (List.Subset.refl _) false
  obtain ⟨c, hc, hbounds⟩ := hfills.condition
  refine ⟨{ r with condition := c }, ?_, by simp only [mapBounds, hbounds]⟩
  simp [ofDocument?, hf, hc, hfills.id, hfills.description, hfills.severity, hfills.action,
    hfills.message]

theorem Rego.LocalRule.exists_ofDocument?_of_isWrittenAs
    (hwrites : ∀ n x, writes n x → g n.toFloat = g x) {r : Rego.LocalRule} {x : Json}
    (hx : x.IsProper) (h : r.IsWrittenAs writes x) (inner : Bool) :
    ∃ r', ofDocument? inner x.toDocument = some r' ∧ r'.mapBounds g = r.mapBounds g := by
  obtain ⟨f, hf, hshows⟩ := exists_fields?_of_member? hx.ordered h.package
    ["id", "package", "description", "condition", "severity", "action", "message"]
  have hfills := Rule.fills_of_isWrittenAs hwrites hx h.rule hshows (by decide) inner
  obtain ⟨c, hc, hbounds⟩ := hfills.condition
  have hpackage : f.required? "package" text? = some r.package :=
    hshows.required? (by decide) h.package text?
  have hseverity : f.required? "severity" Severity.ofDocument? = some r.severity :=
    (hshows.required? (by decide) h.severity _).trans (Severity.ofName?_name _)
  refine ⟨{ r with condition := c }, ?_, congrArg (fun c => { r with condition := c }) hbounds⟩
  simp [ofDocument?, hf, hc, hpackage, hseverity, hfills.id, hfills.description, hfills.action,
    hfills.message, toRule]

theorem Rule.exists_mapM_of_forall₂ (hwrites : ∀ n x, writes n x → g n.toFloat = g x)
    {rules : List Rule} {items : List Json} (hitems : ∀ x ∈ items, x.IsProper)
    (h : List.Forall₂ (IsWrittenAs writes) rules items) :
    ∃ rules', (items.mapM fun x => ofDocument? x.toDocument) = some rules' ∧
      rules'.map (mapBounds g) = rules.map (mapBounds g) := by
  induction h with
  | nil => exact ⟨[], rfl, rfl⟩
  | cons hx _ ih =>
      obtain ⟨hproper, hrest⟩ := List.forall_mem_cons.mp hitems
      obtain ⟨r', hr', hbounds⟩ := exists_ofDocument?_of_isWrittenAs hwrites hproper hx
      obtain ⟨rules', hrules', hrest⟩ := ih hrest
      exact ⟨r' :: rules', by simp [hr', hrules'], by simp [hbounds, hrest]⟩

theorem Policy.exists_ofDocument?_of_isWrittenAs
    (hwrites : ∀ n x, writes n x → g n.toFloat = g x) {p : Policy} {x : Json} (hx : x.IsProper)
    (h : p.IsWrittenAs writes x) :
    ∃ p', ofDocument? x.toDocument = some p' ∧ p'.mapBounds g = p.mapBounds g := by
  obtain ⟨f, hf, hshows⟩ := exists_fields?_of_member? hx.ordered h.id
    ["id", "name", "description", "enabled", "rules"]
  obtain ⟨items, hitems, hspelled⟩ := h.rules
  obtain ⟨rules, hrules, hbounds⟩ := Rule.exists_mapM_of_forall₂ hwrites
    (Json.isProper_array.mp (hx.of_member? hitems)) hspelled
  have hid : f.required? "id" text? = some p.id := hshows.required? (by decide) h.id text?
  have hname : f.required? "name" text? = some p.name := hshows.required? (by decide) h.name text?
  have hdescription := hshows.orElse?_eq (by decide) h.description text? rfl
  have henabled := hshows.orElse?_eq (by decide) h.enabled bool? rfl
  have hrules := ((hshows.required? (by decide) hitems (list? Rule.ofDocument?)).trans
    (list?_array _ _)).trans hrules
  refine ⟨{ p with rules }, ?_, by simp only [mapBounds, hbounds]⟩
  simp [ofDocument?, hf, hid, hname, hdescription, henabled, hrules]

/-! ## Giving out -/

/-- Whether a rule can be written down. -/
def Rule.IsProper (r : Rule) : Prop :=
  r.condition.IsProper

/-- Whether a policy can be written down. -/
def Policy.IsProper (p : Policy) : Prop :=
  ∀ r ∈ p.rules, r.IsProper

/-- Whether a rule can be written down. -/
def Rego.LocalRule.IsProper (r : Rego.LocalRule) : Prop :=
  r.condition.IsProper

theorem Rule.isProper_toJson {r : Rule} (h : r.IsProper) : r.toJson.IsProper :=
  Json.isProper_ofMembers (by
    simp [Condition.isProper_toJson h, Severity.toJson, Action.toJson])

theorem Policy.isProper_toJson {p : Policy} (h : p.IsProper) : p.toJson.IsProper :=
  Json.isProper_ofMembers (by
    simpa [Json.isProper_array] using fun r hr => Rule.isProper_toJson (h r hr))

theorem Rego.LocalRule.isProper_toJson {r : Rego.LocalRule} (h : r.IsProper) :
    r.toJson.IsProper :=
  Json.isProper_ofMembers (by
    simp [Condition.isProper_toJson h, Severity.toJson, Action.toJson])

/-- The members by which a rule is given out. -/
def Rule.members (r : Rule) : List (String × Json) :=
  [("id", .text r.id), ("description", .text r.description), ("condition", r.condition.toJson),
    ("severity", r.severity.toJson), ("action", r.action.toJson), ("message", .text r.message)]

theorem Rule.isWrittenAs_of_members (hwrites : ∀ x, writes (.fraction x) x) {r : Rule}
    (h : r.IsProper) {x : Json} (hx : ∀ m ∈ r.members, x.member? m.1 = some m.2) :
    r.IsWrittenAs writes x := by
  simp only [members, List.forall_mem_cons] at hx
  obtain ⟨hid, hdescription, hcondition, hseverity, haction, hmessage, -⟩ := hx
  exact
    { id := hid
      description := .inl hdescription
      condition := ⟨_, hcondition, Condition.isWrittenAs_toJson hwrites h⟩
      severity := .inl hseverity
      action := haction
      message := hmessage }

theorem Rule.isWrittenAs_toJson (hwrites : ∀ x, writes (.fraction x) x) {r : Rule}
    (h : r.IsProper) : r.IsWrittenAs writes r.toJson := by
  have hmembers : (r.members.map Prod.fst).Nodup := by simp [members]
  exact isWrittenAs_of_members hwrites h fun _ hm => Json.member?_ofMembers_of_mem hmembers hm

theorem Policy.isWrittenAs_toJson (hwrites : ∀ x, writes (.fraction x) x) {p : Policy}
    (h : p.IsProper) : p.IsWrittenAs writes p.toJson := by
  have hmembers : ∀ name x, (name, x) ∈ _ → p.toJson.member? name = some x :=
    fun _ _ hm => Json.member?_ofMembers_of_mem (by simp) hm
  have hrules : List.Forall₂ (Rule.IsWrittenAs writes) p.rules (p.rules.map Rule.toJson) :=
    List.forall₂_map_right_iff.mpr
      (List.forall₂_same.mpr fun r hr => Rule.isWrittenAs_toJson hwrites (h r hr))
  exact
    { id := hmembers _ _ (by simp)
      name := hmembers _ _ (by simp)
      description := .inl (hmembers _ _ (by simp))
      enabled := .inl (hmembers _ _ (by simp))
      rules := ⟨_, hmembers _ _ (by simp), hrules⟩ }

theorem Rego.LocalRule.isWrittenAs_toJson (hwrites : ∀ x, writes (.fraction x) x)
    {r : Rego.LocalRule} (h : r.IsProper) : r.IsWrittenAs writes r.toJson := by
  have hmembers : ∀ name x, (name, x) ∈ _ → r.toJson.member? name = some x :=
    fun _ _ hm => Json.member?_ofMembers_of_mem (by simp) hm
  have hrule : ∀ m ∈ r.toRule.members, r.toJson.member? m.1 = some m.2 := by
    simp [Rule.members, toRule, hmembers]
  exact
    { rule := Rule.isWrittenAs_of_members (r := r.toRule) hwrites h hrule
      package := hmembers _ _ (by simp)
      severity := hmembers _ _ (by simp) }

end Guardrail
