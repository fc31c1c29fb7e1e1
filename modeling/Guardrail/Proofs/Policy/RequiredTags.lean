import Guardrail.Policy.Builtin
import Guardrail.Proofs.Condition.Attributes
import Guardrail.Proofs.Lists
import Guardrail.Proofs.Message.Cuts
import Guardrail.Proofs.Policy.Evaluation

/-!
# Warnings about missing tags

The policy on required tags never denies. It warns of every listed tag that the resource lacks, in
the order of the list. The name of the tag stands in the template of the warning between quotes, so
that a placeholder in it is filled from the record, and no placeholder reaches beyond it.
-/

namespace Guardrail

/-- A resource lacks a tag that it does not have, or has with the empty text. -/
def ResourceView.Lacks (view : ResourceView) (tag : String) : Prop :=
  ∀ v, view.tag? tag = some v → v = ""

instance (view : ResourceView) (tag : String) : Decidable (view.Lacks tag) :=
  decidable_of_iff ((Condition.tagMissing tag).holds ⟨[]⟩ (some view) = true)
    Condition.holds_tagMissing_iff

namespace Policy

open Message

variable {data : FlatRecord} {view : ResourceView} {tag tag' : String}

/-- The warning that a resource lacks a tag. -/
def missingTagText (resource tag : String) : String :=
  "Resource " ++ resource ++ " is missing required tag '" ++ tag ++ "'"

theorem missingTagText_inj {resource : String} :
    missingTagText resource tag = missingTagText resource tag' ↔ tag = tag' := by
  simp [missingTagText, ← String.toList_inj]

/-! ## The message -/

theorem flatMap_render_literal (cs : List Char) (data : FlatRecord) :
    (cs.map Piece.literal).flatMap (Piece.render data) = cs := by
  induction cs with
  | nil => rfl
  | cons c cs ih => rw [List.map_cons, List.flatMap_cons, ih, Piece.render, List.singleton_append]

theorem quote_not_mem {path mark : List Char} (h : IsPlaceholder path mark) : '\'' ∉ mark := by
  intro hquote
  have hcases := h.mem_cases hquote
  revert hcases
  decide

/-- No placeholder reaches across a quote. -/
theorem not_straddles_of_getLast? {s : List Char} (h : s.getLast? = some '\'') (t : List Char) :
    ¬Straddles s t := by
  intro hstraddles
  obtain ⟨path, mark, hmark, ⟨c, hc, hlast⟩, -⟩ := hstraddles.exists_mem
  obtain rfl : '\'' = c := Option.some.inj (h.symm.trans hlast)
  exact quote_not_mem hmark hc

theorem not_straddles_of_head? (s : List Char) {t : List Char} (h : t.head? = some '\'') :
    ¬Straddles s t := by
  intro hstraddles
  obtain ⟨path, mark, hmark, -, c, hc, hhead⟩ := hstraddles.exists_mem
  obtain rfl : '\'' = c := Option.some.inj (h.symm.trans hhead)
  exact quote_not_mem hmark hc

theorem render_placeholder_name (data : FlatRecord) :
    render (placeholder "resource.name") data = substitute data "resource.name" := by
  have hpieces : pieces (placeholder "resource.name").toList =
      [.placeholder "resource.name".toList] := by
    decide +kernel
  rw [render, hpieces]
  simp [Piece.render]

theorem render_opening (data : FlatRecord) :
    render ("Resource " ++ placeholder "resource.name" ++ " is missing required tag '") data =
      "Resource " ++ substitute data "resource.name" ++ " is missing required tag '" := by
  have hpieces :
      pieces ("Resource " ++ placeholder "resource.name" ++ " is missing required tag '").toList =
        "Resource ".toList.map .literal ++ (.placeholder "resource.name".toList ::
          " is missing required tag '".toList.map .literal) := by
    decide +kernel
  rw [render, hpieces, List.flatMap_append, List.flatMap_cons, flatMap_render_literal,
    flatMap_render_literal, ← String.toList_inj]
  simp [Piece.render]

theorem render_closing (data : FlatRecord) : render "'" data = "'" := by
  have hpieces : pieces "'".toList = "'".toList.map .literal := by decide +kernel
  rw [render, hpieces, flatMap_render_literal, String.ofList_toList]

/-- The message is filled in part by part, the name of the tag by itself. -/
theorem render_message_requiredTagRule (tag : String) (data : FlatRecord) :
    render (requiredTagRule tag).message data =
      missingTagText (render (placeholder "resource.name") data) (render tag data) := by
  have hopening : ("Resource " ++ placeholder "resource.name" ++
      " is missing required tag '").toList.getLast? = some '\'' := by
    decide +kernel
  have hclosing : "'".toList.head? = some '\'' := by decide
  rw [requiredTagRule, render_append (not_straddles_of_head? _ hclosing),
    render_append (not_straddles_of_getLast? hopening _), render_opening, render_closing,
    render_placeholder_name, missingTagText]

/-! ## The outcome -/

theorem warning?_result_requiredTagRule :
    ((requiredTagRule tag).result data view).warning? =
      if view.Lacks tag then some (render (requiredTagRule tag).message data) else none := by
  by_cases h : view.Lacks tag
  · rw [if_pos h, Rule.result, requiredTagRule, if_pos (Condition.holds_tagMissing_iff.mpr h)]
    rfl
  · rw [if_neg h, Rule.result, requiredTagRule,
      if_neg (mt Condition.holds_tagMissing_iff.mp h)]
    rfl

theorem messageOf_deny_result_requiredTagRule :
    ((requiredTagRule tag).result data view).messageOf .deny = none := by
  rw [← Option.not_isSome_iff_eq_none, isSome_messageOf_result]
  simp [requiredTagRule]

theorem results_requiredTags (tags : List String) (levels : Nat) (record : Json) :
    (requiredTags tags).results levels record =
      tags.map fun tag => (requiredTagRule tag).result (FlatRecord.ofJson levels record)
        (ResourceView.ofRecord record) := by
  rw [results, requiredTags, Policy.new, List.map_map]
  rfl

theorem allowed_evaluate_requiredTags (tags : List String) (levels : Nat) (record : Json) :
    ((requiredTags tags).evaluate levels record).allowed = true := by
  have henabled : (requiredTags tags).enabled = true := rfl
  rw [evaluate_of_enabled henabled, results_requiredTags, List.isEmpty_iff,
    List.filterMap_eq_nil_iff]
  intro result hresult
  obtain ⟨tag, -, rfl⟩ := List.mem_map.mp hresult
  exact messageOf_deny_result_requiredTagRule

theorem warnings_evaluate_requiredTags (tags : List String) (levels : Nat) (record : Json) :
    ((requiredTags tags).evaluate levels record).warnings =
      (tags.filter fun tag => (ResourceView.ofRecord record).Lacks tag).map fun tag =>
        render (requiredTagRule tag).message (FlatRecord.ofJson levels record) := by
  have henabled : (requiredTags tags).enabled = true := rfl
  rw [evaluate_of_enabled henabled, results_requiredTags]
  dsimp only
  rw [List.filterMap_map, ← filterMap_if_eq_map_filter]
  exact List.filterMap_congr fun tag _ => warning?_result_requiredTagRule

theorem render_placeholder_of_missing
    (h : data.get? "resource.name" = none ∨ data.get? "resource.name" = some .null) :
    render (placeholder "resource.name") data = "<resource.name>" := by
  rw [render_placeholder_name]
  rcases h with h | h
  · simp [substitute, h]
  · simp [substitute, h]

/-- The policy on required tags allows every record. It gives one warning for each listed tag that
the resource lacks, in the order of the list, which names the resource, and the tag as the record
fills it in. Those are the tags as they are listed just if no tag that is lacking has a placeholder
that the record turns into something else. -/
theorem evaluate_requiredTags (tags : List String) (levels : Nat) (record : Json) :
    let data := FlatRecord.ofJson levels record
    let missing := tags.filter fun tag => (ResourceView.ofRecord record).Lacks tag
    let resource := render (placeholder "resource.name") data
    let result := (requiredTags tags).evaluate levels record
    (result.allowed = true ∧
      result.warnings = missing.map fun tag => missingTagText resource (render tag data)) ∧
    (result.warnings = missing.map (missingTagText resource) ↔
      ∀ tag ∈ missing, render tag data = tag) ∧
    (data.get? "resource.name" = none ∨ data.get? "resource.name" = some .null →
      resource = "<resource.name>") ∧
    ∀ tag, (∀ path, ¬Names tag path) → render tag data = tag := by
  intro data missing resource result
  have hwarnings : result.warnings =
      missing.map fun tag => missingTagText resource (render tag data) := by
    simp only [result, warnings_evaluate_requiredTags, render_message_requiredTagRule]
    rfl
  refine ⟨⟨allowed_evaluate_requiredTags tags levels record, hwarnings⟩, ?_,
    render_placeholder_of_missing, fun tag h => render_eq_self h data⟩
  rw [hwarnings, List.map_inj_left]
  exact forall₂_congr fun tag _ => missingTagText_inj

/-- A tag that is listed twice is warned of twice, and braces around it stay. -/
theorem warnings_of_repeated_tag :
    let tags := ["owner", "env", "\x7bowner\x7d", "owner"]
    let record := Json.object [("resource", .object [("tags", .object [("env", .text "dev"),
      ("owner", .text "")])])]
    let result := (requiredTags tags).evaluate FlatRecord.defaultLevels record
    result.allowed = true ∧
      result.warnings = ["Resource <resource.name> is missing required tag 'owner'",
        "Resource <resource.name> is missing required tag '{owner}'",
        "Resource <resource.name> is missing required tag 'owner'"] := by
  intro tags record result
  obtain ⟨⟨hallowed, -⟩, hexact, hname, hplain⟩ :=
    evaluate_requiredTags tags FlatRecord.defaultLevels record
  have hmissing : (tags.filter fun tag => (ResourceView.ofRecord record).Lacks tag) =
      ["owner", "{owner}", "owner"] := by
    decide +kernel
  have hpieces : ∀ tag ∈ tags, pieces tag.toList = tag.toList.map .literal := by decide +kernel
  have hnames : ∀ tag ∈ tags, ∀ path, ¬Names tag path := by
    intro tag htag path
    rw [names_iff, hpieces tag htag]
    simp
  have hwarnings := hexact.mpr fun tag htag => hplain tag (hnames tag (List.mem_of_mem_filter htag))
  rw [hmissing, hname (.inl (by decide +kernel))] at hwarnings
  exact ⟨hallowed, hwarnings⟩

/-- A tag between double braces is warned of by another name, here that of a tag which is there. -/
theorem warnings_of_tag_in_braces :
    ¬∀ (tags : List String) (levels : Nat) (record : Json),
      ((requiredTags tags).evaluate levels record).warnings =
        (tags.filter fun tag => (ResourceView.ofRecord record).Lacks tag).map
          (missingTagText (render (placeholder "resource.name") (.ofJson levels record))) := by
  intro h
  have hwarnings := h [placeholder "env"] FlatRecord.defaultLevels
    (.object [("env", .text "owner"), ("resource", .object [("name", .text "vm-1"),
      ("tags", .object [("owner", .text "data")])])])
  revert hwarnings
  decide +kernel

end Policy

end Guardrail
