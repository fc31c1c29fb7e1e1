import Guardrail.Condition.Evaluation
import Guardrail.Proofs.Json.Documents
import Guardrail.Proofs.Json.Texts
import Guardrail.Proofs.Lists
import Guardrail.Proofs.Record.Segments

/-!
# Attributes of the resource

Some conditions read the view of the resource, others the table of the record. In a record with
plain names and a resource of its own an attribute is what its path leads to: the conditions on the
view can be told from the table.
-/

namespace Guardrail

namespace Json

/-! ## Scalars -/

/-- The text form of a scalar. -/
inductive HasText : Json → String → Prop where
  | text (s : String) : HasText (.text s) s
  | number (n : Number) : HasText (.number n) n.toText
  | yes : HasText (.bool true) "true"
  | no : HasText (.bool false) "false"

/-- A text other than the empty one, a number or a truth value. -/
inductive IsFilled : Json → Prop where
  | text {s : String} (h : s ≠ "") : IsFilled (.text s)
  | number (n : Number) : IsFilled (.number n)
  | bool (b : Bool) : IsFilled (.bool b)

variable {x : Json} {s : String}

theorem scalarText?_eq_some_iff : x.scalarText? = some s ↔ x.HasText s := by
  constructor
  · intro h
    cases x with
    | text t =>
        obtain rfl := Option.some.inj h
        exact .text t
    | number n =>
        obtain rfl := Option.some.inj h
        exact .number n
    | bool b =>
        obtain rfl := Option.some.inj h
        cases b with
        | true => exact .yes
        | false => exact .no
    | _ => cases h
  · intro h
    cases h <;> rfl

/-- The text form of what is filled is not empty. -/
theorem isFilled_iff : x.IsFilled ↔ ∃ s, x.HasText s ∧ s ≠ "" := by
  constructor
  · intro h
    cases h with
    | text hs => exact ⟨_, .text _, hs⟩
    | number n => exact ⟨_, .number n, n.toText_ne_empty⟩
    | bool b =>
        cases b with
        | true => exact ⟨_, .yes, by decide⟩
        | false => exact ⟨_, .no, by decide⟩
  · rintro ⟨s, h, hs⟩
    cases h with
    | text => exact .text hs
    | number n => exact .number n
    | yes => exact .bool true
    | no => exact .bool false

theorem agrees_text_iff : x.agrees (.text s) = true ↔ x = .text s := by
  cases x <;> simp [agrees, same]

theorem text?_eq_some_iff : x.text? = some s ↔ x = .text s := by
  cases x <;> simp [text?]

/-! ## Members -/

theorem nodup_of_isOrdered {ms : List (String × Json)} (h : (Json.object ms).isOrdered = true) :
    (ms.map Prod.fst).Nodup := by
  rw [List.Nodup, List.pairwise_map]
  exact (isOrdered_object.mp h).1.imp String.ne_of_lt

theorem follow_singleton (x : Json) (name : String) : x.follow [name] = x.child? name := by
  rw [follow]
  cases x.child? name <;> rfl

/-! ## Records with a resource -/

/-- A record with plain names that has a resource of its own, whose tags are not a list. -/
structure Describes (record resource : Json) : Prop where
  ordered : record.isOrdered = true
  plain : record.hasPlainNames = true
  member : record.member? "resource" = some resource
  object : ∃ members, resource = .object members
  tags : ∀ items, resource.member? "tags" ≠ some (.array items)

namespace Describes

variable {record resource : Json} {levels : Nat} {name tag : String}

theorem source_eq (h : record.Describes resource) : ResourceView.source record = resource := by
  obtain ⟨members, rfl⟩ := h.object
  rw [ResourceView.source, h.member]

theorem follow_eq (h : record.Describes resource) (name : String) (names : List String) :
    record.follow ("resource" :: name :: names) = (resource.member? name).bind (follow names) := by
  obtain ⟨members, rfl⟩ := h.object
  rw [follow, child?_of_member? h.member]
  rfl

/-- The path of an attribute leads to a member of the resource. -/
theorem get?_attribute (h : record.Describes resource) (hlevels : 3 ≤ levels)
    (hname : '.' ∉ name.toList) :
    (FlatRecord.ofJson levels record).get? ("resource." ++ name) = resource.member? name := by
  have hpath : "resource." ++ name = ".".intercalate ["resource", name] := by
    simp [String.intercalate_cons_cons]
  have hdots : ∀ n ∈ ["resource", name], '.' ∉ n.toList := by simp [hname]
  rw [hpath, FlatRecord.get?_intercalate h.ordered h.plain (by simp) hdots
    (Nat.le_trans (by simp) hlevels), h.follow_eq]
  cases resource.member? name <;> rfl

/-- The path of a tag leads to a member of the tags. -/
theorem get?_tag (h : record.Describes resource) (hlevels : 3 ≤ levels)
    (htag : '.' ∉ tag.toList) :
    (FlatRecord.ofJson levels record).get? ("resource.tags." ++ tag) =
      (resource.member? "tags").bind (·.member? tag) := by
  have hpath : "resource.tags." ++ tag = ".".intercalate ["resource", "tags", tag] := by
    simp [String.intercalate_cons_cons, ← String.append_assoc]
  have hdots : ∀ n ∈ ["resource", "tags", tag], '.' ∉ n.toList := by simp [htag]
  rw [hpath, FlatRecord.get?_intercalate h.ordered h.plain (by simp) hdots hlevels, h.follow_eq]
  refine Option.bind_congr fun tags htags => ?_
  cases tags with
  | array items => exact absurd htags (h.tags items)
  | object ms => exact follow_singleton _ tag
  | _ => rfl

/-- The first text among some attributes is the first one among their paths. -/
theorem firstText?_eq (h : record.Describes resource) (hlevels : 3 ≤ levels)
    {names paths : List String} (hpaths : names.map ("resource." ++ ·) = paths)
    (hnames : ∀ name ∈ names, '.' ∉ name.toList) :
    ResourceView.firstText? (ResourceView.source record) names =
      paths.findSome? fun path => ((FlatRecord.ofJson levels record).get? path).bind text? := by
  rw [← hpaths, List.findSome?_map, h.source_eq]
  exact findSome?_congr fun name hname => by
    rw [Function.comp_apply, h.get?_attribute hlevels (hnames name hname)]

/-- A tag of the view is the text form of the scalar that its path leads to. -/
theorem tag?_eq_some_iff (h : record.Describes resource) (hlevels : 3 ≤ levels)
    (htag : '.' ∉ tag.toList) {s : String} :
    (ResourceView.ofRecord record).tag? tag = some s ↔
      ∃ x, (FlatRecord.ofJson levels record).get? ("resource.tags." ++ tag) = some x ∧
        x.HasText s := by
  have htags : ∀ ms, resource.member? "tags" = some (.object ms) → (ms.map Prod.fst).Nodup :=
    fun ms hms => nodup_of_isOrdered
      (isOrdered_of_member? (isOrdered_of_member? h.ordered h.member) hms)
  have hview : (ResourceView.ofRecord record).tag? tag =
      ((resource.member? "tags").bind (·.member? tag)).bind scalarText? := by
    rw [ResourceView.tag?, ResourceView.ofRecord, h.source_eq]
    cases hms : resource.member? "tags" with
    | none => rfl
    | some tags =>
        cases tags with
        | object ms => exact lookup_filterMap (htags ms hms) scalarText? tag
        | _ => rfl
  rw [hview, ← h.get?_tag hlevels htag, Option.bind_eq_some_iff]
  simp only [scalarText?_eq_some_iff]

end Describes

end Json

/-! ## Conditions on the resource -/

/-- What the conditions on the attributes and on one tag of the resource say, told from a table. -/
structure ResourceView.FollowsTable (view : ResourceView) (data : FlatRecord) (tag value : String) :
    Prop where
  provider : (Condition.provider value).holds data (some view) =
    (Condition.equals "resource.provider" (.text value)).holds data (some view)
  region : (Condition.region value).holds data (some view) =
    (Condition.equals "resource.region" (.text value)).holds data (some view)
  /-- Of several paths the first one that leads to a text counts. -/
  kind : (Condition.resourceKind value).holds data (some view) = true ↔
    (["resource.type", "resource.resourceType", "resource.resource_type"].findSome? fun path =>
      (data.get? path).bind Json.text?) = some value
  tagged : (Condition.tagEquals tag none).holds data (some view) = true ↔
    ∃ x s, data.get? ("resource.tags." ++ tag) = some x ∧ x.HasText s
  tagEquals : (Condition.tagEquals tag (some value)).holds data (some view) = true ↔
    ∃ x, data.get? ("resource.tags." ++ tag) = some x ∧ x.HasText value
  tagMissing : (Condition.tagMissing tag).holds data (some view) = true ↔
    ∀ x, data.get? ("resource.tags." ++ tag) = some x → ¬x.IsFilled

namespace Condition

variable {data : FlatRecord} {view : ResourceView} {tag value : String}

theorem holds_provider_iff :
    (Condition.provider value).holds data (some view) = true ↔ view.provider? = some value :=
  decide_eq_true_iff

theorem holds_region_iff :
    (Condition.region value).holds data (some view) = true ↔ view.region? = some value :=
  decide_eq_true_iff

theorem holds_resourceKind_iff :
    (Condition.resourceKind value).holds data (some view) = true ↔ view.kind? = some value :=
  decide_eq_true_iff

theorem holds_tagged_iff :
    (Condition.tagEquals tag none).holds data (some view) = true ↔
      ∃ s, view.tag? tag = some s := by
  change ((view.tag? tag).any fun v => (none : Option String).all (v = ·)) = true ↔ _
  simp [Option.isSome_iff_exists]

theorem holds_tagEquals_iff :
    (Condition.tagEquals tag (some value)).holds data (some view) = true ↔
      view.tag? tag = some value := by
  change ((view.tag? tag).any fun v => (some value).all (v = ·)) = true ↔ _
  simp [Option.any_eq_true]

theorem holds_tagMissing_iff :
    (Condition.tagMissing tag).holds data (some view) = true ↔
      ∀ s, view.tag? tag = some s → s = "" := by
  change (view.tag? tag).all (· = "") = true ↔ _
  simp [Option.all_eq_true]

theorem holds_equals_text_iff {field : String} :
    (Condition.equals field (.text value)).holds data (some view) = true ↔
      (data.get? field).bind Json.text? = some value := by
  change (data.get? field).any (·.agrees (.text value)) = true ↔ _
  simp [Option.any_eq_true, Option.bind_eq_some_iff, Json.text?_eq_some_iff, Json.agrees_text_iff]

end Condition

/-- In a record with a resource of its own, the conditions on the resource can be told from the
table, be the table as deep as a tag or deeper. -/
theorem ResourceView.followsTable_ofRecord {record resource : Json} (h : record.Describes resource)
    {levels : Nat} (hlevels : 3 ≤ levels) {tag : String} (htag : '.' ∉ tag.toList)
    (value : String) :
    (ofRecord record).FollowsTable (FlatRecord.ofJson levels record) tag value := by
  have hattribute : ∀ name, '.' ∉ name.toList →
      firstText? (source record) [name] =
        ((FlatRecord.ofJson levels record).get? ("resource." ++ name)).bind Json.text? := by
    intro name hname
    rw [h.firstText?_eq hlevels rfl (by simpa using hname), List.map_singleton,
      List.findSome?_singleton]
  have hkind : (ofRecord record).kind? =
      ["resource.type", "resource.resourceType", "resource.resource_type"].findSome? fun path =>
        ((FlatRecord.ofJson levels record).get? path).bind Json.text? :=
    h.firstText?_eq hlevels (by decide) (by decide)
  have htext := fun s => h.tag?_eq_some_iff hlevels htag (s := s)
  exact
    { provider := by
        rw [Bool.eq_iff_iff, Condition.holds_provider_iff, Condition.holds_equals_text_iff]
        exact iff_of_eq (congrArg (· = some value) (hattribute "provider" (by decide)))
      region := by
        rw [Bool.eq_iff_iff, Condition.holds_region_iff, Condition.holds_equals_text_iff]
        exact iff_of_eq (congrArg (· = some value) (hattribute "region" (by decide)))
      kind := by
        rw [Condition.holds_resourceKind_iff, hkind]
      tagged := by
        rw [Condition.holds_tagged_iff]
        simp only [htext]
        exact exists_comm
      tagEquals := Condition.holds_tagEquals_iff.trans (htext value)
      tagMissing := by
        rw [Condition.holds_tagMissing_iff]
        constructor
        · intro hempty x hx hfilled
          obtain ⟨s, hs, hne⟩ := Json.isFilled_iff.mp hfilled
          exact hne (hempty s ((htext s).mpr ⟨x, hx, hs⟩))
        · intro hnone s hs
          obtain ⟨x, hx, hxs⟩ := (htext s).mp hs
          exact Decidable.byContradiction fun hne =>
            hnone x hx (Json.isFilled_iff.mpr ⟨s, hxs, hne⟩) }

/-- A number is a tag with its digits as value, a tag that is `null` is missing, and the second name
of the kind counts where the first one leads to no text. -/
theorem ResourceView.followsTable_of_other_types :
    let resource := Json.object
      [("provider", .bool true), ("resourceType", .text "vm"),
        ("tags", .object [("cost", .number (.int 42)), ("owner", .null)]),
        ("type", .number (.int 1))]
    let record := Json.object [("resource", resource)]
    let data := FlatRecord.ofJson 3 record
    let view := ofRecord record
    record.Describes resource ∧ '.' ∉ "cost".toList ∧ view.FollowsTable data "cost" "42" ∧
      (Condition.provider "aws").holds data (some view) = false ∧
      (Condition.resourceKind "vm").holds data (some view) = true ∧
      (Condition.tagEquals "cost" (some "42")).holds data (some view) = true ∧
      (Condition.tagMissing "owner").holds data (some view) = true := by
  intro resource record data view
  have h : record.Describes resource :=
    ⟨by decide, by decide, rfl, ⟨_, rfl⟩, fun items hitems => nomatch hitems⟩
  have hfollows : ∀ tag, '.' ∉ tag.toList → ∀ value, view.FollowsTable data tag value :=
    fun tag htag => followsTable_ofRecord h (Nat.le_refl 3) htag
  have hcost := hfollows "cost" (by decide) "42"
  have howner : data.get? "resource.tags.owner" = some .null := rfl
  refine ⟨h, by decide, hcost, (hfollows "cost" (by decide) "aws").provider.trans rfl,
    (hfollows "cost" (by decide) "vm").kind.mpr rfl, hcost.tagEquals.mpr ⟨_, rfl, .number _⟩,
    (hfollows "owner" (by decide) "").tagMissing.mpr fun x hx => ?_⟩
  obtain rfl := Option.some.inj (howner.symm.trans hx)
  exact fun hfilled => nomatch hfilled

end Guardrail
