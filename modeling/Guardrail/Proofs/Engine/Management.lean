import Guardrail.Engine.Loading
import Guardrail.Engine.Management
import Mathlib.Data.List.Forall2

/-!
# Embedded engines over time

What an embedded engine reports of a change can be told from the steps of its life: they do to the
violations what they do to the rules. The engine of a configuration is one that has taken up its
policy texts, and there is none if a policy file cannot be read.
-/

namespace Guardrail.Engine

namespace Embedded

/-! ## Violations -/

/-- The violations that an engine reports of a change. -/
def violations (e : Embedded) (change : Json) : List Violation :=
  (e.evaluate change).violations

theorem evaluate_eq (e : Embedded) (change : Json) :
    e.evaluate change = .ofViolations (e.violations change) := rfl

theorem violations_append (xs ys : List Rego.LocalRule) (change : Json) :
    (mk (xs ++ ys)).violations change = (mk xs).violations change ++ (mk ys).violations change :=
  List.filterMap_append

theorem ruleId_of_violation? {data : FlatRecord} {view : ResourceView} {rule : Rego.LocalRule}
    {v : Violation} (h : violation? data view rule = some v) : v.ruleId = rule.id := by
  rw [violation?, Option.ite_none_right_eq_some, Option.some.injEq] at h
  obtain ⟨-, rfl⟩ := h
  rfl

theorem violations_remove (e : Embedded) (id : String) (change : Json) :
    (e.remove id).violations change = (e.violations change).filter (·.ruleId ≠ id) := by
  let data := FlatRecord.ofJson FlatRecord.defaultLevels change
  let view := ResourceView.ofRecord change
  have hrules : ∀ rules : List Rego.LocalRule,
      (rules.filter (·.id ≠ id)).filterMap (violation? data view) =
        (rules.filterMap (violation? data view)).filter (·.ruleId ≠ id) := by
    intro rules
    rw [List.filterMap_filter, List.filter_filterMap]
    refine List.filterMap_congr fun rule _ => ?_
    cases h : violation? data view rule with
    | none => simp
    | some v =>
        have hid : v.ruleId = rule.id := ruleId_of_violation? h
        simp [Option.filter_some, hid]
  exact hrules e.rules

/-! ## Steps -/

/-- What a step makes of the violations of a change. -/
def replay (change : Json) (vs : List Violation) : Step → List Violation
  | .load text => vs ++ (ofText text).violations change
  | .add rule => vs ++ (mk [rule]).violations change
  | .remove id => vs.filter (·.ruleId ≠ id)
  | .judge _ => vs

theorem violations_perform (e : Embedded) (step : Step) (change : Json) :
    (e.perform step).2.violations change = replay change (e.violations change) step := by
  cases step with
  | load text => exact violations_append e.rules (Rego.rules text) change
  | add rule => exact violations_append e.rules [rule] change
  | remove id => exact violations_remove e id change
  | judge _ => rfl

theorem violations_run (e : Embedded) (steps : List Step) (change : Json) :
    (e.run steps).violations change = steps.foldl (replay change) (e.violations change) := by
  induction steps generalizing e with
  | nil => rfl
  | cons step steps ih =>
      have hrest : e.run (step :: steps) = (e.perform step).2.run steps := rfl
      rw [hrest, ih, violations_perform, List.foldl_cons]

theorem run_append (e : Embedded) (xs ys : List Step) : e.run (xs ++ ys) = (e.run xs).run ys :=
  List.foldl_append

/-! ## Replies -/

theorem length_remove_add (e : Embedded) (id : String) :
    (e.remove id).rules.length + e.rules.countP (·.id = id) = e.rules.length := by
  rw [remove, List.length_eq_countP_add_countP (·.id = id) (l := e.rules), Nat.add_comm,
    ← List.countP_eq_length_filter]
  simp

/-- Rules are missing after a removal exactly if one had the id. -/
theorem length_remove_ne_iff (e : Embedded) (id : String) :
    e.rules.length ≠ (e.remove id).rules.length ↔ e.hasRule id = true := by
  have hlength := length_remove_add e id
  calc e.rules.length ≠ (e.remove id).rules.length ↔ 0 < e.rules.countP (·.id = id) := by omega
    _ ↔ e.hasRule id = true := by rw [hasRule, List.countP_pos_iff, List.any_eq_true]

/-- The replies of an engine tell what becomes of its rules. -/
structure Replies (e : Embedded) : Prop where
  loaded : ∀ text, ∃ rules, e.perform (.load text) = (.loaded rules.length, ⟨e.rules ++ rules⟩)
  removed : ∀ id, e.perform (.remove id) = (.removed (e.hasRule id), e.remove id)
  hasRule_iff : ∀ id, e.hasRule id = true ↔ ∃ rule ∈ e.rules, rule.id = id
  judged : ∀ change, e.perform (.judge change) = (.judged (e.evaluate change), e)

theorem replies (e : Embedded) : e.Replies where
  loaded := fun text => ⟨Rego.rules text, rfl⟩
  removed := by
    intro id
    have hfound : decide (e.rules.length ≠ (e.remove id).rules.length) = e.hasRule id := by
      rw [Bool.eq_iff_iff, decide_eq_true_eq, length_remove_ne_iff]
    rw [perform, hfound]
  hasRule_iff := by simp [hasRule]
  judged := fun _ => rfl

end Embedded

namespace EmbeddedConfig

/-! ## Configurations -/

variable {read : String → Except FileTrouble String}

/-- The engine with the rules of a policy file, if it can be read. -/
def takeUp (read : String → Except FileTrouble String) (e : Embedded) (path : String) :
    Except Failure Embedded :=
  match read path with
  | .ok text => .ok (e.load text)
  | .error why => .error (unreadable path why)

theorem build_eq (c : EmbeddedConfig) (read : String → Except FileTrouble String) :
    c.build read =
      c.policyFiles.foldlM (takeUp read)
        ((Embedded.mk c.rules).run (c.policyText?.toList.map .load)) := by
  rw [build]
  cases c.policyText? <;> rfl

theorem foldlM_takeUp_of_readable {paths texts : List String}
    (h : List.Forall₂ (fun path text => read path = .ok text) paths texts) (e : Embedded) :
    paths.foldlM (takeUp read) e = .ok (e.run (texts.map .load)) := by
  induction h generalizing e with
  | nil => rfl
  | @cons path text paths texts hread _ ih =>
      have hstep : takeUp read e path = .ok (e.load text) := by rw [takeUp, hread]
      rw [List.foldlM_cons, hstep]
      exact ih (e.load text)

theorem foldlM_takeUp_of_unreadable {front back : List String} {path : String} {why : FileTrouble}
    (hfront : ∀ p ∈ front, ∃ text, read p = .ok text) (h : read path = .error why) (e : Embedded) :
    (front ++ path :: back).foldlM (takeUp read) e = .error (unreadable path why) := by
  induction front generalizing e with
  | nil =>
      have hstep : takeUp read e path = .error (unreadable path why) := by rw [takeUp, h]
      rw [List.nil_append, List.foldlM_cons, hstep]
      rfl
  | cons p front ih =>
      obtain ⟨text, hread⟩ := hfront p List.mem_cons_self
      have hstep : takeUp read e p = .ok (e.load text) := by rw [takeUp, hread]
      rw [List.cons_append, List.foldlM_cons, hstep]
      exact ih (fun q hq => hfront q (List.mem_cons_of_mem p hq)) (e.load text)

/-- What becomes of a configuration where some files can be read and others cannot. -/
structure Builds (c : EmbeddedConfig) (read : String → Except FileTrouble String) : Prop where
  readable : ∀ texts, List.Forall₂ (fun path text => read path = .ok text) c.policyFiles texts →
    (Config.embedded c).build read =
      .ok (.embedded ((Embedded.mk c.rules).run ((c.policyText?.toList ++ texts).map .load)))
  unreadable : ∀ front path back why, c.policyFiles = front ++ path :: back →
    (∀ p ∈ front, ∃ text, read p = .ok text) → read path = .error why →
    (Config.embedded c).build read =
      .error (.config ("Failed to read policy file " ++ path ++ ": " ++ why.message))

theorem builds (c : EmbeddedConfig) (read : String → Except FileTrouble String) :
    c.Builds read where
  readable := by
    intro texts h
    rw [Config.build, build_eq, foldlM_takeUp_of_readable h, ← Embedded.run_append,
      ← List.map_append]
    rfl
  unreadable := by
    intro front path back why hpaths hfront h
    rw [Config.build, build_eq, hpaths, foldlM_takeUp_of_unreadable hfront h]
    rfl

end EmbeddedConfig

/-- The verdicts of an engine are replayed from the steps of its life, which its replies report; and
an engine that is built from a configuration has come to its rules by such steps. -/
theorem Embedded.evaluate_run :
    (∀ (e : Embedded) steps change,
      (e.run steps).evaluate change =
        .ofViolations (steps.foldl (replay change) (e.evaluate change).violations)) ∧
    (∀ e : Embedded, e.Replies) ∧
    (∀ (c : EmbeddedConfig) read, c.Builds read) := by
  refine ⟨fun e steps change => ?_, replies, EmbeddedConfig.builds⟩
  rw [evaluate_eq, violations_run, violations]

/-- Both rules of the id are dropped, the later one is kept, and a file is missing in the end. -/
theorem Embedded.evaluate_run_of_shared_id :
    let rule (id : String) : Rego.LocalRule :=
      { id, package := "p", description := "", condition := .custom none, severity := .low
        action := .warn, message := "" }
    let e : Embedded := ⟨[rule "a", rule "b"]⟩
    let steps : List Step := [.add (rule "a"), .judge .null, .remove "a", .add (rule "a")]
    let read (path : String) : Except FileTrouble String :=
      if path = "p.rego" then .ok "package p" else .error .missing
    let c : EmbeddedConfig := ⟨e.rules, none, ["p.rego"]⟩
    ((e.run steps).evaluate .null).violations.map Violation.ruleId = ["b", "a"] ∧
      e.perform (.remove "a") = (.removed true, e.remove "a") ∧
      (Config.embedded c).build read = .ok (.embedded (e.run [.load "package p"])) ∧
      (Config.embedded { c with policyFiles := ["p.rego", "lost.rego"] }).build read =
        .error (.config
          "Failed to read policy file lost.rego: No such file or directory (os error 2)") := by
  intro rule e steps read c
  obtain ⟨hrun, hreplies, hbuilds⟩ := evaluate_run
  have hread : read "p.rego" = .ok "package p" := if_pos rfl
  have hlost : read "lost.rego" = .error .missing := if_neg (by decide)
  refine ⟨?_, ?_, (hbuilds c read).readable ["package p"] (.cons hread .nil), ?_⟩
  · rw [hrun e steps .null]
    rfl
  · have hfound : e.hasRule "a" = true :=
      ((hreplies e).hasRule_iff "a").mpr ⟨rule "a", List.mem_cons_self, rfl⟩
    rw [(hreplies e).removed, hfound]
  · refine (hbuilds { c with policyFiles := ["p.rego", "lost.rego"] } read).unreadable
      ["p.rego"] "lost.rego" [] .missing rfl (fun path hpath => ?_) hlost
    obtain rfl := List.mem_singleton.mp hpath
    exact ⟨_, hread⟩

end Guardrail.Engine
