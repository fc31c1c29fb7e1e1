import Guardrail.Proofs.Engine.Management
import Guardrail.Proofs.Rego.Denial
import Guardrail.Proofs.Rego.Lowering
import Mathlib.Data.List.Nodup

/-!
# Ids of rules from several texts

The rules of one policy text have different ids, but every text counts its rules from one. Rules of
two texts that an engine takes up share ids exactly if the texts have rules of one package and head.
-/

namespace Guardrail

namespace Rego

/-! ## Two texts -/

/-- The packages and heads of the rules of a policy text. -/
def topics (text : String) : List (String × String) :=
  ((blocks text).filter Block.isLowered).map Block.key

/-- The ids of the rules of a policy text. -/
def ruleIds (text : String) : List String :=
  (rules text).map LocalRule.id

/-- The blocks of a policy text that become rules, with their ranks. -/
def rankedBlocks (text : String) : List (Block × Nat) :=
  Block.rankedBehind [] ((blocks text).filter Block.isLowered)

theorem Block.ruleId_congr {b c : Block} (h : b.key = c.key) (n : Nat) :
    b.ruleId n = c.ruleId n := by
  obtain ⟨hpackage, hhead⟩ := Prod.mk.inj h
  rw [ruleId, ruleId, hpackage, hhead]

/-- The first block of each package and head ranks behind those in front of the list. -/
theorem Block.exists_mem_rankedBehind (before : List (String × String)) {bs : List Block}
    {k : String × String} (h : k ∈ bs.map key) :
    ∃ b, b.key = k ∧ (b, before.count k + 1) ∈ rankedBehind before bs := by
  induction bs generalizing before with
  | nil => simp at h
  | cons c bs ih =>
      by_cases hc : c.key = k
      · exact ⟨c, hc, by simp [rankedBehind, hc]⟩
      · have hrest : k ∈ bs.map key := by simpa [Ne.symm hc] using h
        obtain ⟨b, hb, hmem⟩ := ih (c.key :: before) hrest
        rw [List.count_cons_of_ne hc] at hmem
        exact ⟨b, hb, List.mem_cons_of_mem _ hmem⟩

theorem isLowered_of_mem_rankedBlocks {text : String} {x : Block × Nat}
    (h : x ∈ rankedBlocks text) : x.1.isLowered = true :=
  (List.mem_filter.mp (Block.fst_mem_of_mem_rankedBehind h)).2

theorem key_mem_topics {text : String} {x : Block × Nat} (h : x ∈ rankedBlocks text) :
    x.1.key ∈ topics text :=
  List.mem_map_of_mem (Block.fst_mem_of_mem_rankedBehind h)

theorem ruleIds_eq (text : String) :
    ruleIds text = (rankedBlocks text).map fun x => x.1.ruleId x.2 :=
  map_id_eq_of_stemsFrom (forall₂_lowerFrom [] (blocks text))

theorem nodup_ruleIds (text : String) : (ruleIds text).Nodup := by
  rw [ruleIds_eq]
  exact nodup_ruleId_ranked fun b hb => (List.mem_filter.mp hb).2

theorem disjoint_ruleIds_iff (s t : String) :
    (ruleIds s).Disjoint (ruleIds t) ↔ (topics s).Disjoint (topics t) := by
  simp only [ruleIds_eq]
  constructor
  · intro h k hs ht
    -- either text has a first rule of the package and head
    obtain ⟨b, hb, hbmem⟩ := Block.exists_mem_rankedBehind [] hs
    obtain ⟨c, hc, hcmem⟩ := Block.exists_mem_rankedBehind [] ht
    refine h (List.mem_map_of_mem hbmem) ?_
    rw [Block.ruleId_congr (hb.trans hc.symm)]
    exact List.mem_map_of_mem hcmem
  · intro h id hs ht
    obtain ⟨x, hx, rfl⟩ := List.mem_map.mp hs
    obtain ⟨y, hy, hid⟩ := List.mem_map.mp ht
    obtain ⟨hkey, -⟩ := Block.ruleId_inj (isLowered_of_mem_rankedBlocks hy)
      (isLowered_of_mem_rankedBlocks hx) hid
    exact h (key_mem_topics hx) (hkey ▸ key_mem_topics hy)

theorem topics_denial {package statement : List Char} {c : Condition}
    (hpackage : (dottedName package).all isName = true) (h : IsStatement statement c)
    (hbreak : '\n' ∉ statement) :
    topics (denial package statement) = [(String.ofList package, "deny")] := by
  rw [topics, blocks_denial hpackage h hbreak]
  rfl

end Rego

namespace Engine.Embedded

open Rego

/-! ## Several texts -/

theorem rules_run_load (e : Embedded) (texts : List String) :
    (e.run (texts.map .load)).rules = e.rules ++ texts.flatMap Rego.rules := by
  induction texts generalizing e with
  | nil => simp [run]
  | cons text texts ih =>
      have hrest : e.run ((text :: texts).map .load) = (e.load text).run (texts.map .load) := rfl
      rw [hrest, ih, load, List.append_assoc, List.flatMap_cons]

/-- An engine that has taken up some policy texts and nothing else. -/
def ofTexts (texts : List String) : Embedded :=
  empty.run (texts.map .load)

/-- No two texts have rules of one package and head. -/
def KeepApart (texts : List String) : Prop :=
  texts.Pairwise fun s t => (topics s).Disjoint (topics t)

theorem rules_ofTexts (texts : List String) : (ofTexts texts).rules = texts.flatMap Rego.rules :=
  rules_run_load empty texts

theorem nodup_ids_iff (texts : List String) :
    ((ofTexts texts).rules.map LocalRule.id).Nodup ↔ KeepApart texts := by
  have hids : (ofTexts texts).rules.map LocalRule.id = texts.flatMap ruleIds := by
    rw [rules_ofTexts, List.map_flatMap]
    rfl
  rw [hids, List.nodup_flatMap, KeepApart]
  simp only [← disjoint_ruleIds_iff]
  exact and_iff_right fun text _ => nodup_ruleIds text

theorem count_ids (rules : List LocalRule) (id : String) :
    (rules.map LocalRule.id).count id = rules.countP (·.id = id) := by
  rw [List.count, List.countP_map]
  rfl

/-- Every text has at most one rule of an id. -/
theorem countP_rules (text id : String) :
    (Rego.rules text).countP (·.id = id) = if id ∈ ruleIds text then 1 else 0 := by
  rw [← (nodup_ruleIds text).count, ruleIds, count_ids]

theorem countP_ofTexts (texts : List String) (id : String) :
    (ofTexts texts).rules.countP (·.id = id) = texts.countP (id ∈ ruleIds ·) := by
  rw [rules_ofTexts]
  induction texts with
  | nil => rfl
  | cons text texts ih =>
      rw [List.flatMap_cons, List.countP_append, ih, countP_rules, List.countP_cons]
      simp [Nat.add_comm]

theorem removes_one_iff (e : Embedded) :
    (∀ id, e.rules.length ≤ (e.remove id).rules.length + 1) ↔
      (e.rules.map LocalRule.id).Nodup := by
  rw [List.nodup_iff_count_le_one]
  refine forall_congr' fun id => ?_
  have hlength := length_remove_add e id
  rw [count_ids]
  omega

theorem existsUnique_rule {e : Embedded} (h : (e.rules.map LocalRule.id).Nodup) {change : Json}
    {v : Violation} (hv : v ∈ e.violations change) :
    ∃! rule, rule ∈ e.rules ∧ rule.id = v.ruleId := by
  obtain ⟨rule, hrule, hviolation⟩ := List.mem_filterMap.mp hv
  have hid : rule.id = v.ruleId := (ruleId_of_violation? hviolation).symm
  refine ⟨rule, ⟨hrule, hid⟩, ?_⟩
  rintro other ⟨hother, hsame⟩
  exact List.inj_on_of_nodup_map h hother hrule (hsame.trans hid.symm)

/-- The rules of several texts have different ids exactly if no two texts have rules of one package
and head, and otherwise more than one goes with some id: one for each text that has it. -/
theorem nodup_ids_ofTexts (texts : List String) :
    (((ofTexts texts).rules.map LocalRule.id).Nodup ↔ KeepApart texts) ∧
    ((∀ id, (ofTexts texts).rules.length ≤ ((ofTexts texts).remove id).rules.length + 1) ↔
      KeepApart texts) ∧
    (∀ id, ((ofTexts texts).remove id).rules.length + texts.countP (id ∈ ruleIds ·) =
      (ofTexts texts).rules.length) ∧
    (KeepApart texts → ∀ change, ∀ v ∈ ((ofTexts texts).evaluate change).violations,
      ∃! rule, rule ∈ (ofTexts texts).rules ∧ rule.id = v.ruleId) := by
  have hnodup := nodup_ids_iff texts
  refine ⟨hnodup, (removes_one_iff _).trans hnodup, fun id => ?_, fun h change v hv => ?_⟩
  · rw [← countP_ofTexts, length_remove_add]
  · exact existsUnique_rule (hnodup.mpr h) hv

/-- Texts of two packages. -/
theorem nodup_ids_of_two_packages :
    let t₁ := denial "infra".toList "input.open".toList
    let t₂ := denial "network".toList "input.open".toList
    let e := ofTexts [t₁, t₂]
    KeepApart [t₁, t₂] ∧ (e.rules.map LocalRule.id).Nodup ∧
      e.rules.length ≤ (e.remove "infra.deny_1").rules.length + 1 ∧
      ∀ v ∈ (e.evaluate (.object [("open", .bool true)])).violations,
        ∃! rule, rule ∈ e.rules ∧ rule.id = v.ruleId := by
  intro t₁ t₂ e
  have hopen : IsStatement "input.open".toList (.present (fieldName ["open"])) := by
    have hname : IsSegment ".open".toList "open" :=
      .name (by decide) (List.all_eq_true.mp (by decide))
    exact .present (isPath_append (.cons hname .nil) (by decide))
  have h₁ : topics t₁ = [("infra", "deny")] := topics_denial (by decide) hopen (by decide)
  have h₂ : topics t₂ = [("network", "deny")] := topics_denial (by decide) hopen (by decide)
  obtain ⟨hnodup, hremove, -, hunique⟩ := nodup_ids_ofTexts [t₁, t₂]
  have hapart : KeepApart [t₁, t₂] := by
    simp [KeepApart, h₁, h₂]
  exact ⟨hapart, hnodup.mpr hapart, hremove.mpr hapart _, hunique hapart _⟩

/-- Two texts of one package and head: both rules have one id, and are dropped together. -/
theorem ids_of_shared_package :
    let t₁ := denial "infra".toList "input.open".toList
    let t₂ := denial "infra".toList "input.shared".toList
    let e := ofTexts [t₁, t₂]
    e.rules.map LocalRule.id = ["infra.deny_1", "infra.deny_1"] ∧
      ¬ (e.rules.map LocalRule.id).Nodup ∧ (e.remove "infra.deny_1").rules = [] := by
  intro t₁ t₂ e
  have hstatement {segment : List Char} {name : String} (h : IsSegment segment name) :
      IsStatement ("input".toList ++ (segment ++ [])) (.present (fieldName [name])) :=
    .present (isPath_append (.cons h .nil) (List.cons_ne_nil name []))
  have hopen : IsSegment ".open".toList "open" :=
    .name (by decide) (List.all_eq_true.mp (by decide))
  have hshared : IsSegment ".shared".toList "shared" :=
    .name (by decide) (List.all_eq_true.mp (by decide))
  have h₁ : Rego.rules t₁ = [denialOf "infra".toList (.present (fieldName ["open"]))] :=
    rules_denial (by decide) (hstatement hopen) (by decide)
  have h₂ : Rego.rules t₂ = [denialOf "infra".toList (.present (fieldName ["shared"]))] :=
    rules_denial (by decide) (hstatement hshared) (by decide)
  have hrules : e.rules = Rego.rules t₁ ++ Rego.rules t₂ := by
    rw [rules_ofTexts, List.flatMap_cons, List.flatMap_singleton]
  have hids : e.rules.map LocalRule.id = ["infra.deny_1", "infra.deny_1"] := by
    rw [hrules, h₁, h₂]
    decide
  refine ⟨hids, by rw [hids]; decide, ?_⟩
  rw [remove, hrules, h₁, h₂]
  rfl

end Engine.Embedded

end Guardrail
