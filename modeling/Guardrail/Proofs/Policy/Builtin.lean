import Guardrail.Policy.Builtin
import Guardrail.Proofs.Json.Numbers
import Guardrail.Proofs.Policy.Evaluation
import Guardrail.Proofs.Record.Lookup

/-!
# What the ready-made policies deny

The ready-made policies read two members deep. What stands there decides, unless the record itself
has a member whose name is the whole path: that member is read in its place.
-/

namespace Guardrail

namespace Json

/-- A path with one dot leads two members deep, unless it is itself the name of a member. -/
theorem find?_of_member? {record y v : Json} {path front rest : String}
    (hp : namedCuts true path.toList = [(front.toList, rest.toList)])
    (hy : record.member? front = some y) (hv : y.member? rest = some v) (levels : Nat) :
    record.find? (levels + 2) true path.toList = some ((record.member? path).getD v) := by
  have hrest : y.find? (levels + 1) false rest.toList = some v := by
    simp [find?, child?_of_member? hv]
  cases hm : record.member? path with
  | some w => simp [find?, child?_of_member? hm]
  | none =>
      have hc : record.child? path = none := (member?_eq_child? hy path).trans hm
      rw [find?, hp]
      simp [hc, child?_of_member? hy, hrest]

end Json

namespace Policy

/-- The member that stands at a path of two names. -/
def memberAt? (record : Json) (front rest : String) : Option Json :=
  (record.member? front).bind (·.member? rest)

theorem get?_of_memberAt? {record v : Json} (hr : record.isOrdered = true)
    {path front rest : String} (hp : Json.namedCuts true path.toList = [(front.toList, rest.toList)])
    (hv : memberAt? record front rest = some v) :
    (FlatRecord.ofJson FlatRecord.defaultLevels record).get? path =
      some ((record.member? path).getD v) := by
  obtain ⟨y, hy, hv⟩ := Option.bind_eq_some_iff.mp hv
  rw [FlatRecord.get?_eq_find? hr]
  exact Json.find?_of_member? hp hy hv 18

/-- Whether a value is a number above a limit, or a text that denotes one. -/
def exceeds (limit : Float) (v : Json) : Bool :=
  v.numeric?.any fun x => x > limit

theorem denied_costThreshold_iff {levels : Nat} {record v : Json} (limit : Float)
    (h : (FlatRecord.ofJson levels record).get? "cost.monthlyDelta" = some v) :
    ((costThreshold limit).evaluate levels record).denied = true ↔ exceeds limit v = true := by
  rw [denied_evaluate_iff rfl]
  simp [costThreshold, Policy.new, Condition.holds, Order.holds, h, exceeds]

theorem denied_publicExposure_iff {levels : Nat} {record v : Json}
    (h : (FlatRecord.ofJson levels record).get? "resource.ingressCidrs" = some v) :
    (publicExposure.evaluate levels record).denied = true ↔ v.containsValue (.text "0.0.0.0/0") = true := by
  rw [denied_evaluate_iff rfl]
  simp [publicExposure, Policy.new, Condition.holds, h]

theorem containsValue_of_mem {items : List Json} {s : String} (h : .text s ∈ items) :
    (Json.array items).containsValue (.text s) = true :=
  List.any_eq_true.mpr ⟨.text s, h, by simp [Json.agrees, Json.same]⟩

/-- A cost that compares as above the limit is denied, and so is an ingress from anywhere, exactly if
the record has no member whose name is the whole path, or that member is to be denied as well. A cost
above the limit compares as above it unless the limit is the nearest binary fraction. -/
theorem denied_iff_of_member_of_path {record : Json} (hr : record.isOrdered = true) :
    (∀ limit delta, memberAt? record "cost" "monthlyDelta" = some (.number delta) →
      (((costThreshold limit).evaluate FlatRecord.defaultLevels record).denied = true ↔
        (record.member? "cost.monthlyDelta" = none → delta.toFloat > limit) ∧
          ∀ v, record.member? "cost.monthlyDelta" = some v → exceeds limit v = true) ∧
      (delta.IsProper → delta.IsAbove limit →
        (delta.toFloat > limit ↔ delta.nearest? ≠ Decimal.value? limit))) ∧
    (∀ items, memberAt? record "resource" "ingressCidrs" = some (.array items) →
      .text "0.0.0.0/0" ∈ items →
      ((publicExposure.evaluate FlatRecord.defaultLevels record).denied = true ↔
        ∀ v, record.member? "resource.ingressCidrs" = some v →
          v.containsValue (.text "0.0.0.0/0") = true)) := by
  constructor
  · intro limit delta hm
    refine ⟨?_, Number.toFloat_gt_iff⟩
    rw [denied_costThreshold_iff limit (get?_of_memberAt? hr (by decide) hm)]
    cases record.member? "cost.monthlyDelta" with
    | none => simp [exceeds, Json.numeric?]
    | some v => simp
  · intro items hm hitems
    rw [denied_publicExposure_iff (get?_of_memberAt? hr (by decide) hm)]
    cases record.member? "resource.ingressCidrs" with
    | none => simpa using containsValue_of_mem hitems
    | some v => simp

/-- Members beside the path do not matter, not even one inside a member of an empty name. Of two
costs above their limits the one is denied, and the other compares as the limit itself. -/
theorem denied_beside_other_members :
    let record (delta : Int) : Json := .object
      [("", .object [("cost.monthlyDelta", .number (.int 0))]),
        ("cost", .object [("monthlyDelta", .number (.int delta))]),
        ("cost.monthlyDelta.currency", .text "EUR"),
        ("resource", .object [("ingressCidrs", .array [.text "10.0.0.0/8", .text "0.0.0.0/0"])])]
    (∀ delta, (record delta).isOrdered = true) ∧
      (Number.int 600).IsAbove 500 ∧
      ((costThreshold 500).evaluate FlatRecord.defaultLevels (record 600)).denied = true ∧
      (Number.int (2 ^ 53 + 1)).IsAbove 9007199254740992 ∧
      ((costThreshold 9007199254740992).evaluate FlatRecord.defaultLevels
        (record (2 ^ 53 + 1))).denied = false ∧
      (publicExposure.evaluate FlatRecord.defaultLevels (record 600)).denied = true := by
  intro record
  have hordered (delta : Int) : (record delta).isOrdered = true := by
    change (record 0).isOrdered = true
    decide
  have hmember (delta : Int) : (record delta).member? "cost.monthlyDelta" = none := rfl
  have hlimit (n : Nat) (hn : n ≤ 2 ^ 53) : Decimal.value? (Float.ofNat n) = some (n : ℚ) := by
    rw [Decimal.value?_ofNat (by omega), Decimal.nearest_of_le hn]
  have hless : Decimal.value? 500 = some 500 := hlimit 500 (by decide)
  have hgreater : Decimal.value? 9007199254740992 = some 9007199254740992 :=
    hlimit 9007199254740992 (by decide)
  have hshort : (Number.int 600).IsAbove 500 := ⟨_, _, rfl, hless, by norm_num⟩
  have hlong : (Number.int (2 ^ 53 + 1)).IsAbove 9007199254740992 :=
    ⟨_, _, rfl, hgreater, by norm_num⟩
  have hcost (limit : Float) (delta : Int) :=
    (denied_iff_of_member_of_path (hordered delta)).1 limit (.int delta) rfl
  refine ⟨hordered, hshort, ?_, hlong, ?_, ?_⟩
  · obtain ⟨hdenied, hcompares⟩ := hcost 500 600
    have hnearest : (Number.int 600).nearest? ≠ Decimal.value? 500 := by
      rw [hless, Number.nearest?, Decimal.nearestInt_of_le (by decide)]
      norm_num
    refine hdenied.mpr ⟨fun _ => (hcompares ⟨by decide, by decide⟩ hshort).mpr hnearest, ?_⟩
    exact fun v hv => absurd ((hmember 600).symm.trans hv) (Option.some_ne_none v).symm
  · obtain ⟨hdenied, hcompares⟩ := hcost 9007199254740992 (2 ^ 53 + 1)
    have hnearest : (Number.int (2 ^ 53 + 1)).nearest? = Decimal.value? 9007199254740992 := by
      rw [hgreater, Number.mistakenFor_pred.2, Number.nearest?,
        Decimal.nearestInt_of_le (by decide)]
      norm_num
    by_contra hviolated
    rw [Bool.not_eq_false] at hviolated
    exact (hcompares ⟨by decide, by decide⟩ hlong).mp ((hdenied.mp hviolated).1 (hmember _))
      hnearest
  · exact ((denied_iff_of_member_of_path (hordered 600)).2 _ rfl (by simp)).mpr
      fun v hv => absurd hv (Option.some_ne_none v).symm

/-- A member whose name is the whole path stands in front of the one that the path leads to. -/
theorem not_denied_beside_member_of_path :
    let record : Json := .object
      [("cost", .object [("monthlyDelta", .number (.int 1000))]),
        ("cost.monthlyDelta", .number (.int 0)),
        ("resource", .object [("ingressCidrs", .array [.text "0.0.0.0/0"])]),
        ("resource.ingressCidrs", .array [])]
    record.isOrdered = true ∧
      memberAt? record "cost" "monthlyDelta" = some (.number (.int 1000)) ∧
      (Number.int 1000).toFloat > 500 ∧
      ((costThreshold 500).evaluate FlatRecord.defaultLevels record).denied = false ∧
      memberAt? record "resource" "ingressCidrs" = some (.array [.text "0.0.0.0/0"]) ∧
      (publicExposure.evaluate FlatRecord.defaultLevels record).denied = false :=
  ⟨by decide, rfl, by decide, by decide, rfl, by decide⟩

end Policy

end Guardrail
