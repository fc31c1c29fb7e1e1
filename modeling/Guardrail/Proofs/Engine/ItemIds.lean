import Guardrail.Proofs.Engine.Decisions
import Guardrail.Proofs.Rego.Lowering

/-!
# Ids of items and ids of rules

The texts that a policy service reports under a package and a head are numbered like the rules of
that package and head in policy texts. The ids are the same, but for the package without a name: an
item has a dot in front of its head even then.
-/

namespace Guardrail

namespace Rego

/-! ## Rules of one package and head -/

/-- The rules that stem from blocks of a package and head. -/
def rulesOf (k : String × String) (bs : List Block) : List LocalRule :=
  (((bs.filter Block.isLowered).zip (lower bs)).filter (·.1.key = k)).map Prod.snd

namespace Block

/-- The ranks of one package and head follow each other without a gap. -/
theorem map_snd_filter_rankedBehind (before : List (String × String)) (bs : List Block)
    (k : String × String) :
    ((rankedBehind before bs).filter (·.1.key = k)).map Prod.snd =
      List.range' (before.count k + 1) ((bs.map key).count k) := by
  induction bs generalizing before with
  | nil => rfl
  | cons b bs ih =>
      rw [rankedBehind, List.map_cons]
      by_cases hb : b.key = k
      · rw [List.filter_cons_of_pos (by simpa using hb), List.map_cons, ih, hb,
          List.count_cons_self, List.count_cons_self, List.range'_succ]
      · rw [List.filter_cons_of_neg (by simpa using hb), ih, List.count_cons_of_ne hb,
          List.count_cons_of_ne hb]

end Block

theorem map_id_filter_zip {xs : List (Block × Nat)} {rs : List LocalRule}
    (h : List.Forall₂ (fun x r => r.StemsFrom x.1 x.2) xs rs) (k : String × String) :
    (((xs.map Prod.fst).zip rs).filter (·.1.key = k)).map (·.2.id) =
      (xs.filter (·.1.key = k)).map fun x => x.1.ruleId x.2 := by
  induction h with
  | nil => rfl
  | @cons x r xs rs hr _ ih =>
      have hid : r.id = x.1.ruleId x.2 := hr.id.trans (x.1.ruleId_eq x.2).symm
      by_cases hx : x.1.key = k
      · simp [hx, hid, ih]
      · simp [hx, ih]

/-- The blocks of a package and head that become rules, with their ranks. -/
def rankedOf (k : String × String) (bs : List Block) : List (Block × Nat) :=
  (Block.rankedBehind [] (bs.filter Block.isLowered)).filter (·.1.key = k)

theorem map_id_rulesOf (k : String × String) (bs : List Block) :
    (rulesOf k bs).map LocalRule.id = (rankedOf k bs).map fun x => x.1.ruleId x.2 := by
  have hids := map_id_filter_zip (forall₂_lowerFrom [] bs) k
  rw [Block.map_fst_rankedBehind] at hids
  rw [rulesOf, List.map_map]
  exact hids

theorem map_snd_rankedOf (k : String × String) (bs : List Block) :
    (rankedOf k bs).map Prod.snd = List.range' 1 (rulesOf k bs).length := by
  have hlength : (rankedOf k bs).length = (rulesOf k bs).length := by
    simpa using (congrArg List.length (map_id_rulesOf k bs)).symm
  have hranks : (rankedOf k bs).map Prod.snd = List.range' 1 _ :=
    Block.map_snd_filter_rankedBehind [] (bs.filter Block.isLowered) k
  rw [hranks, ← hlength, ← List.length_map Prod.snd, hranks, List.length_range']

end Rego

namespace Engine

open Rego (Block LocalRule rulesOf rankedOf)

/-! ## Items of one package and head -/

theorem map_ruleId_reportedAll (t : Topic) (messages : List String) :
    (reportedAll t (messages.map .text)).map Violation.ruleId =
      (List.range' 1 messages.length).map t.itemId := by
  apply List.ext_getElem
  · simp [reportedAll]
  · intro i _ _
    simp [reportedAll, reported, Nat.add_comm]

theorem Topic.itemId_eq_ruleId {t : Topic} {b : Block} (h : b.key = (t.package, t.head))
    (hpackage : t.package ≠ "") (n : Nat) : t.itemId n = b.ruleId n := by
  obtain ⟨hp, hh⟩ := Prod.mk.inj h
  rw [itemId, Block.ruleId, if_neg (by rwa [hp]), hp, hh]
  simp only [String.append_assoc]

theorem Topic.itemId_eq_dot_ruleId {t : Topic} {b : Block} (h : b.key = (t.package, t.head))
    (hpackage : t.package = "") (n : Nat) : t.itemId n = "." ++ b.ruleId n := by
  obtain ⟨hp, hh⟩ := Prod.mk.inj h
  rw [itemId, Block.ruleId, if_pos (by rwa [hp]), hh, hpackage, String.empty_append]
  simp only [String.append_assoc]

/-! ## Both side by side -/

variable {t : Topic} {bs : List Block}

/-- Items are numbered from one without a gap, and so are rules: how one id looks beside the other
is how all of them do. -/
theorem map_itemId_eq_map {f : String → String}
    (h : ∀ b n, Block.key b = (t.package, t.head) → t.itemId n = f (b.ruleId n)) :
    (List.range' 1 (rulesOf (t.package, t.head) bs).length).map t.itemId =
      ((rulesOf (t.package, t.head) bs).map LocalRule.id).map f := by
  rw [Rego.map_id_rulesOf, ← Rego.map_snd_rankedOf, List.map_map, List.map_map]
  refine List.map_congr_left fun x hx => ?_
  have hkey : x.1.key = (t.package, t.head) := by simpa using (List.mem_filter.mp hx).2
  exact h x.1 x.2 hkey

theorem map_itemId_of_package (h : t.package ≠ "") :
    (List.range' 1 (rulesOf (t.package, t.head) bs).length).map t.itemId =
      (rulesOf (t.package, t.head) bs).map LocalRule.id := by
  rw [map_itemId_eq_map (f := id) fun _ n hkey => Topic.itemId_eq_ruleId hkey h n, List.map_id]

theorem map_itemId_of_no_package (h : t.package = "") :
    (List.range' 1 (rulesOf (t.package, t.head) bs).length).map t.itemId =
      ((rulesOf (t.package, t.head) bs).map LocalRule.id).map ("." ++ ·) :=
  map_itemId_eq_map fun _ n hkey => Topic.itemId_eq_dot_ruleId hkey h n

theorem map_dot_ne {ids : List String} (h : ids ≠ []) : ids.map ("." ++ ·) ≠ ids := by
  cases ids with
  | nil => contradiction
  | cons id ids =>
      intro heq
      have hlength := congrArg String.length (List.cons.inj heq).1
      simp at hlength

/-- Texts that are reported under a package and a head have the ids of as many rules of them, in the
same order, exactly if the package has a name; otherwise every id has a dot more. -/
theorem reported_ids_eq_iff (t : Topic) (messages : List String) (bs : List Block) {document : Json}
    (hresult : document.member? "result" = some (.array (messages.map .text)))
    (hlength : (rulesOf (t.package, t.head) bs).length = messages.length) :
    ((decided t document).map Violation.ruleId =
        (rulesOf (t.package, t.head) bs).map LocalRule.id ↔ t.package ≠ "" ∨ messages = []) ∧
    (t.package = "" → (decided t document).map Violation.ruleId =
      ((rulesOf (t.package, t.head) bs).map LocalRule.id).map ("." ++ ·)) := by
  have hids : (decided t document).map Violation.ruleId =
      (List.range' 1 (rulesOf (t.package, t.head) bs).length).map t.itemId := by
    rw [decided_of_reports (.inl hresult), map_ruleId_reportedAll, hlength]
  rw [hids]
  refine ⟨?_, map_itemId_of_no_package⟩
  by_cases hpackage : t.package = ""
  · rw [map_itemId_of_no_package hpackage]
    constructor
    · intro heq
      have hnil : (rulesOf (t.package, t.head) bs).map LocalRule.id = [] := by
        by_contra hne
        exact map_dot_ne hne heq
      rw [List.map_eq_nil_iff.mp hnil, List.length_nil] at hlength
      exact .inr (List.eq_nil_of_length_eq_zero hlength.symm)
    · rintro (hname | rfl)
      · exact absurd hpackage hname
      · rw [List.eq_nil_of_length_eq_zero hlength]
        rfl
  · exact iff_of_true (map_itemId_of_package hpackage) (.inl hpackage)

/-- The second block has no condition, and the third is of another head. -/
theorem reported_ids_eq_beside_other_blocks :
    let block (head : String) (conditions : List Condition) : Block :=
      ⟨"infra", head, conditions, none, []⟩
    let bs : List Block :=
      [block "deny" [.custom none], block "deny" [], block "warn" [.custom none],
        block "deny" [.custom none, .custom none]]
    let t : Topic := ⟨"infra", "deny"⟩
    let document : Json := .object [("result", .array [.text "too expensive", .text ""])]
    document.member? "result" = some (.array (["too expensive", ""].map .text)) ∧
      (rulesOf (t.package, t.head) bs).length = 2 ∧
      (decided t document).map Violation.ruleId =
        (rulesOf (t.package, t.head) bs).map LocalRule.id ∧
      (rulesOf (t.package, t.head) bs).map LocalRule.id = ["infra.deny_1", "infra.deny_2"] := by
  intro block bs t document
  have hresult : document.member? "result" = some (.array (["too expensive", ""].map .text)) := rfl
  have hlength : (rulesOf (t.package, t.head) bs).length = 2 := by decide
  obtain ⟨hiff, -⟩ := reported_ids_eq_iff t ["too expensive", ""] bs hresult hlength
  exact ⟨hresult, hlength, hiff.mpr (.inl (by decide)), by decide⟩

/-- A head without a package is a path of its own, and a block without one is as good as others. -/
theorem reported_ids_ne_of_no_package :
    let t := Topic.ofPath "v1/data/deny"
    let document : Json := .object [("result", .array [.text "too expensive"])]
    let bs : List Block := [⟨"", "deny", [.custom none], none, []⟩]
    (Rego.headMapping? t.head).isSome = true ∧ rulesOf (t.package, t.head) bs = Rego.lower bs ∧
      (decided t document).map Violation.ruleId = [".deny_1"] ∧
      (Rego.lower bs).map LocalRule.id = ["deny_1"] := by
  intro t document bs
  exact ⟨by decide, rfl, by decide, by decide⟩

end Engine

end Guardrail
