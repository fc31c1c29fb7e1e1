import Guardrail.Condition.Evaluation
import Guardrail.Proofs.Json.Children
import Guardrail.Proofs.Text.Search
import Guardrail.Rego.LocalRule
import Mathlib.Data.List.Forall2

/-!
# Lowering blocks

Every block whose head has a meaning and that has a condition becomes one rule, in the order of the
blocks. Its id counts the rules of its package and head so far, and no two rules have one id.
-/

namespace Guardrail.Rego

/-! ## Blocks that become rules -/

namespace Block

/-- Whether a block becomes a rule: its head has a meaning and it has a condition. -/
def isLowered (b : Block) : Bool :=
  (headMappings.map Prod.fst).contains b.head && !b.conditions.isEmpty

/-- What the rules are counted by. -/
def key (b : Block) : String × String :=
  (b.package, b.head)

/-- The head behind its package, if there is one. -/
def qualifiedHead (b : Block) : String :=
  if b.package = "" then b.head else b.package ++ "." ++ b.head

/-- Several blocks, each with its place among those of its package and head. -/
def ranked (bs : List Block) : List (Block × Nat) :=
  bs.mapIdx fun i b => (b, ((bs.take (i + 1)).map key).count b.key)

end Block

/-- What a rule has from its block, as the `n`-th one of the block's package and head. -/
structure LocalRule.StemsFrom (b : Block) (n : Nat) (r : LocalRule) : Prop where
  id : r.id = b.qualifiedHead ++ "_" ++ Decimal.digitText n
  package : r.package = b.package
  outcome : (b.head, r.severity, r.action) ∈ headMappings
  condition : ∀ data view?, r.condition.holds data view? = b.conditions.all (·.holds data view?)

theorem holdsAll_eq_all (data : FlatRecord) (view? : Option ResourceView)
    (cs : List Condition) :
    Condition.holdsAll data view? cs = cs.all (·.holds data view?) := by
  induction cs with
  | nil => rfl
  | cons c cs ih => rw [Condition.holdsAll, ih, List.all_cons]

namespace Block

theorem holds_condition (b : Block) (data : FlatRecord) (view? : Option ResourceView) :
    b.condition.holds data view? = b.conditions.all (·.holds data view?) := by
  unfold condition
  split
  · rename_i c hc
    simp [hc]
  · rw [Condition.holds, holdsAll_eq_all]

theorem ruleId_eq (b : Block) (n : Nat) :
    b.ruleId n = b.qualifiedHead ++ "_" ++ Decimal.digitText n := by
  unfold ruleId qualifiedHead
  split
  · rfl
  · simp [String.append_assoc]

theorem outcome?_of_isLowered {b : Block} (h : b.isLowered = true) :
    ∃ severity action, b.outcome? = some (severity, action) ∧
      (b.head, severity, action) ∈ headMappings := by
  rw [isLowered, Bool.and_eq_true, Bool.not_eq_true', List.contains_iff_mem] at h
  obtain ⟨hhead, hconditions⟩ := h
  obtain ⟨entry, hentry, hname⟩ := List.mem_map.mp hhead
  have hsome : (headMappings.lookup b.head).isSome = true := by
    rw [List.lookup_isSome_iff]
    exact ⟨entry, hentry, by simp [hname]⟩
  obtain ⟨⟨severity, action⟩, hlookup⟩ := Option.isSome_iff_exists.mp hsome
  refine ⟨severity, action, ?_, ?_⟩
  · rw [outcome?, if_neg (by simp [hconditions]), headMapping?, hlookup]
  · obtain ⟨front, back, he, -⟩ := List.lookup_eq_some_iff.mp hlookup
    simp [he]

theorem outcome?_of_not_isLowered {b : Block} (h : b.isLowered = false) : b.outcome? = none := by
  rw [outcome?]
  split
  · rfl
  · rename_i hconditions
    rw [headMapping?, List.lookup_eq_none_iff]
    intro entry hentry
    have hhead : (headMappings.map Prod.fst).contains b.head = false := by
      simpa [isLowered, hconditions] using h
    have hne : b.head ≠ entry.1 := by
      rintro he
      have hmem : b.head ∈ headMappings.map Prod.fst := List.mem_map.mpr ⟨entry, hentry, he.symm⟩
      rw [← List.contains_iff_mem, hhead] at hmem
      exact Bool.false_ne_true hmem
    simpa using hne

theorem toRule?_of_isLowered {b : Block} (h : b.isLowered = true) (n : Nat) :
    ∃ r, b.toRule? n = some r ∧ r.StemsFrom b n := by
  obtain ⟨severity, action, ho, hm⟩ := outcome?_of_isLowered h
  refine ⟨_, by rw [toRule?, ho, Option.map_some], ?_⟩
  exact
    { id := b.ruleId_eq n
      package := rfl
      outcome := hm
      condition := b.holds_condition }

theorem toRule?_of_not_isLowered {b : Block} (h : b.isLowered = false) (n : Nat) :
    b.toRule? n = none := by
  rw [toRule?, outcome?_of_not_isLowered h, Option.map_none]

/-! ## Ranks -/

/-- The ranks of several blocks when rules of some packages and heads stand in front of them. -/
def rankedBehind (before : List (String × String)) : List Block → List (Block × Nat)
  | [] => []
  | b :: bs => (b, before.count b.key + 1) :: rankedBehind (b.key :: before) bs

theorem rankedBehind_eq_mapIdx (before : List (String × String)) (bs : List Block) :
    rankedBehind before bs =
      bs.mapIdx fun i b => (b, before.count b.key + ((bs.take (i + 1)).map key).count b.key) := by
  induction bs generalizing before with
  | nil => rfl
  | cons b bs ih =>
      rw [rankedBehind, ih, List.mapIdx_cons]
      congr 1
      · simp
      · apply List.mapIdx_eq_mapIdx_iff.mpr
        intro i hi
        simp only [List.take_succ_cons, List.map_cons, List.count_cons]
        congr 1
        omega

theorem ranked_eq_rankedBehind (bs : List Block) : ranked bs = rankedBehind [] bs := by
  rw [rankedBehind_eq_mapIdx, ranked]
  simp

/-- A rank counts what stands in front. -/
theorem count_lt_of_mem_rankedBehind {before : List (String × String)} {bs : List Block}
    {b : Block} {n : Nat} (h : (b, n) ∈ rankedBehind before bs) : before.count b.key < n := by
  induction bs generalizing before with
  | nil => exact absurd h List.not_mem_nil
  | cons c bs ih =>
      rcases List.mem_cons.mp h with h | h
      · obtain ⟨rfl, rfl⟩ := Prod.mk.inj h
        exact Nat.lt_succ_self _
      · have hlt := ih h
        rw [List.count_cons] at hlt
        omega

theorem pairwise_rankedBehind (before : List (String × String)) (bs : List Block) :
    (rankedBehind before bs).Pairwise fun x y => ¬(x.1.key = y.1.key ∧ x.2 = y.2) := by
  induction bs generalizing before with
  | nil => exact List.Pairwise.nil
  | cons b bs ih =>
      refine List.Pairwise.cons ?_ (ih (b.key :: before))
      rintro ⟨c, n⟩ hc ⟨hkey, hrank⟩
      have hlt := count_lt_of_mem_rankedBehind hc
      simp only at hkey hrank
      rw [← hkey, List.count_cons_self] at hlt
      omega

theorem map_fst_rankedBehind (before : List (String × String)) (bs : List Block) :
    (rankedBehind before bs).map Prod.fst = bs := by
  induction bs generalizing before with
  | nil => rfl
  | cons b bs ih => rw [rankedBehind, List.map_cons, ih]

theorem fst_mem_of_mem_rankedBehind {before : List (String × String)} {bs : List Block}
    {x : Block × Nat} (h : x ∈ rankedBehind before bs) : x.1 ∈ bs := by
  rw [← map_fst_rankedBehind before bs]
  exact List.mem_map_of_mem h

/-! ## Ids -/

theorem underscore_not_mem_digitText (n : Nat) : '_' ∉ (Decimal.digitText n).toList := by
  intro h
  have hd := Decimal.isDigit_of_mem_digitText h
  simp at hd

/-- No head that has a meaning has a dot. -/
theorem dot_not_mem_head {b : Block} (h : b.isLowered = true) : '.' ∉ b.head.toList := by
  rw [isLowered, Bool.and_eq_true, List.contains_iff_mem] at h
  have hall : ∀ name ∈ headMappings.map Prod.fst, '.' ∉ name.toList := by decide
  exact hall b.head h.1

/-- A package ends at the last dot of a qualified head. -/
theorem key_eq_of_qualifiedHead {b c : Block} (hb : '.' ∉ b.head.toList)
    (hc : '.' ∉ c.head.toList) (h : b.qualifiedHead = c.qualifiedHead) : b.key = c.key := by
  unfold qualifiedHead at h
  by_cases hbp : b.package = ""
  · by_cases hcp : c.package = ""
    · rw [if_pos hbp, if_pos hcp] at h
      rw [key, key, hbp, hcp, h]
    · rw [if_pos hbp, if_neg hcp] at h
      exact absurd (by simp [h]) hb
  · by_cases hcp : c.package = ""
    · rw [if_neg hbp, if_pos hcp] at h
      exact absurd (by simp [← h]) hc
    · rw [if_neg hbp, if_neg hcp] at h
      have hsplit : b.package.toList ++ '.' :: b.head.toList =
          c.package.toList ++ '.' :: c.head.toList := by
        simpa using congrArg String.toList h
      obtain ⟨hpackage, hhead⟩ := Text.append_cons_inj_of_last hb hc hsplit
      exact Prod.ext (String.toList_inj.mp hpackage) (String.toList_inj.mp hhead)

/-- A number begins behind the last underscore of an id. -/
theorem ruleId_inj {b c : Block} {m n : Nat} (hb : b.isLowered = true) (hc : c.isLowered = true)
    (h : b.ruleId m = c.ruleId n) : b.key = c.key ∧ m = n := by
  rw [ruleId_eq, ruleId_eq] at h
  have hsplit : b.qualifiedHead.toList ++ '_' :: (Decimal.digitText m).toList =
      c.qualifiedHead.toList ++ '_' :: (Decimal.digitText n).toList := by
    simpa using congrArg String.toList h
  obtain ⟨hhead, hnumber⟩ := Text.append_cons_inj_of_last (underscore_not_mem_digitText m)
    (underscore_not_mem_digitText n) hsplit
  exact ⟨key_eq_of_qualifiedHead (dot_not_mem_head hb) (dot_not_mem_head hc)
      (String.toList_inj.mp hhead),
    Decimal.digitText_injective (String.toList_inj.mp hnumber)⟩

end Block

/-! ## Rules -/

theorem lowerFrom_cons_some {before : List (String × String)} {b : Block} {r : LocalRule}
    (h : b.toRule? (before.count b.key + 1) = some r) (bs : List Block) :
    lowerFrom before (b :: bs) = r :: lowerFrom (b.key :: before) bs := by
  rw [Block.key] at h
  rw [lowerFrom, h, Block.key]

theorem lowerFrom_cons_none {before : List (String × String)} {b : Block}
    (h : b.toRule? (before.count b.key + 1) = none) (bs : List Block) :
    lowerFrom before (b :: bs) = lowerFrom before bs := by
  rw [Block.key] at h
  rw [lowerFrom, h]

theorem forall₂_lowerFrom (before : List (String × String)) (bs : List Block) :
    List.Forall₂ (fun x r => r.StemsFrom x.1 x.2)
      (Block.rankedBehind before (bs.filter Block.isLowered)) (lowerFrom before bs) := by
  induction bs generalizing before with
  | nil => exact .nil
  | cons b bs ih =>
      cases hb : b.isLowered with
      | true =>
          obtain ⟨r, hr, hstems⟩ := Block.toRule?_of_isLowered hb (before.count b.key + 1)
          rw [List.filter_cons_of_pos hb, Block.rankedBehind, lowerFrom_cons_some hr]
          exact .cons hstems (ih (b.key :: before))
      | false =>
          have hr := Block.toRule?_of_not_isLowered hb (before.count b.key + 1)
          have hneg : ¬ b.isLowered = true := by simp [hb]
          rw [List.filter_cons_of_neg hneg, lowerFrom_cons_none hr]
          exact ih before

theorem map_id_eq_of_stemsFrom {xs : List (Block × Nat)} {rs : List LocalRule}
    (h : List.Forall₂ (fun x r => r.StemsFrom x.1 x.2) xs rs) :
    rs.map LocalRule.id = xs.map fun x => x.1.ruleId x.2 := by
  induction h with
  | nil => rfl
  | cons hr _ ih => rw [List.map_cons, List.map_cons, ih, hr.id, Block.ruleId_eq]

theorem nodup_ruleId_ranked {bs : List Block} (h : ∀ b ∈ bs, b.isLowered = true) :
    ((Block.rankedBehind [] bs).map fun x => x.1.ruleId x.2).Nodup := by
  rw [List.Nodup, List.pairwise_map]
  refine (Block.pairwise_rankedBehind [] bs).imp_of_mem ?_
  intro x y hx hy hne hid
  exact hne (Block.ruleId_inj (h x.1 (Block.fst_mem_of_mem_rankedBehind hx))
    (h y.1 (Block.fst_mem_of_mem_rankedBehind hy)) hid)

/-- The rules stem from the blocks whose head has a meaning and that have a condition, one from each
and in their order, and no two have one id. -/
theorem lower_stemsFrom_ranked (bs : List Block) :
    List.Forall₂ (fun x r => r.StemsFrom x.1 x.2) (Block.ranked (bs.filter Block.isLowered))
        (lower bs) ∧
      ((lower bs).map LocalRule.id).Nodup := by
  have hstems := forall₂_lowerFrom [] bs
  have hlowered : ∀ b ∈ bs.filter Block.isLowered, b.isLowered = true :=
    fun b hb => (List.mem_filter.mp hb).2
  refine ⟨?_, ?_⟩
  · rw [Block.ranked_eq_rankedBehind]
    exact hstems
  · rw [lower, map_id_eq_of_stemsFrom hstems]
    exact nodup_ruleId_ranked hlowered

/-- Three rules of one head, and a package that ends like a head. -/
example :
    let block (package head : String) : Block := ⟨package, head, [.custom none], none, []⟩
    (lower [block "" "deny", block "a" "require_approval", block "a.require_approval_1" "approval",
        ⟨"", "deny", [], none, ["x"]⟩, block "" "deny", block "" "allow"]).map LocalRule.id =
      ["deny_1", "a.require_approval_1", "a.require_approval_1.approval_1", "deny_2"] := by
  decide

end Guardrail.Rego
