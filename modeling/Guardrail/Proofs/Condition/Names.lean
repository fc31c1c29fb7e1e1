import Guardrail.Condition.Evaluation

/-!
# The names in a condition

A condition reads the fields and the tags that it names, and the kind, the provider and the region
of the resource. Where two records agree on these, the condition holds of both or of neither.
-/

namespace Guardrail

/-- Two tables give the same answer for every one of some paths. -/
def FlatRecord.AgreeOn (paths : List String) (r s : FlatRecord) : Prop :=
  ∀ path ∈ paths, r.get? path = s.get? path

/-- Two views agree on the attributes of the resource and on some of its tags. -/
structure ResourceView.AgreeOn (tags : List String) (v w : ResourceView) : Prop where
  kind : v.kind? = w.kind?
  provider : v.provider? = w.provider?
  region : v.region? = w.region?
  tag : ∀ tag ∈ tags, v.tag? tag = w.tag? tag

theorem FlatRecord.AgreeOn.mono {paths names : List String} {r s : FlatRecord}
    (h : r.AgreeOn paths s) (hsub : names ⊆ paths) : r.AgreeOn names s :=
  fun path hpath => h path (hsub hpath)

theorem ResourceView.AgreeOn.mono {tags names : List String} {v w : ResourceView}
    (h : v.AgreeOn tags w) (hsub : names ⊆ tags) : v.AgreeOn names w :=
  { h with tag := fun tag htag => h.tag tag (hsub htag) }

namespace Condition

mutual

/-- The fields that a condition names. -/
def fields : Condition → List String
  | .equals field _ => [field]
  | .differs field _ => [field]
  | .contains field _ => [field]
  | .matches field _ => [field]
  | .compares _ field _ => [field]
  | .present field => [field]
  | .absent field => [field]
  | .oneOf field _ => [field]
  | .noneOf field _ => [field]
  | .size field _ _ => [field]
  | .all conditions => fieldsOfAll conditions
  | .any conditions => fieldsOfAll conditions
  | .not condition => condition.fields
  | _ => []

/-- The fields that several conditions name. -/
def fieldsOfAll : List Condition → List String
  | [] => []
  | c :: cs => c.fields ++ fieldsOfAll cs

end

mutual

/-- The tags that a condition names. -/
def tags : Condition → List String
  | .tagMissing tag => [tag]
  | .tagEquals tag _ => [tag]
  | .all conditions => tagsOfAll conditions
  | .any conditions => tagsOfAll conditions
  | .not condition => condition.tags
  | _ => []

/-- The tags that several conditions name. -/
def tagsOfAll : List Condition → List String
  | [] => []
  | c :: cs => c.tags ++ tagsOfAll cs

end

/-- Two records with their resources look the same to whoever reads only some fields and tags. -/
structure Alike (fields tags : List String) (data data' : FlatRecord) (view view' : ResourceView) :
    Prop where
  data : data.AgreeOn fields data'
  view : view.AgreeOn tags view'

variable {data data' : FlatRecord} {view view' : ResourceView}

theorem Alike.get?_eq {fields tags : List String} {field : String}
    (h : Alike (field :: fields) tags data data' view view') : data.get? field = data'.get? field :=
  h.data field List.mem_cons_self

theorem Alike.tag?_eq {fields tags : List String} {tag : String}
    (h : Alike fields (tag :: tags) data data' view view') : view.tag? tag = view'.tag? tag :=
  h.view.tag tag List.mem_cons_self

theorem Alike.left {fields fields' tags tags' : List String}
    (h : Alike (fields ++ fields') (tags ++ tags') data data' view view') :
    Alike fields tags data data' view view' :=
  ⟨h.data.mono (List.subset_append_left _ _), h.view.mono (List.subset_append_left _ _)⟩

theorem Alike.right {fields fields' tags tags' : List String}
    (h : Alike (fields ++ fields') (tags ++ tags') data data' view view') :
    Alike fields' tags' data data' view view' :=
  ⟨h.data.mono (List.subset_append_right _ _), h.view.mono (List.subset_append_right _ _)⟩

mutual

/-- A condition depends on what it names alone. -/
theorem holds_eq_of_alike : ∀ (c : Condition), Alike c.fields c.tags data data' view view' →
    c.holds data (some view) = c.holds data' (some view')
  | .equals .., h => by simp only [holds, h.get?_eq]
  | .differs .., h => by simp only [holds, h.get?_eq]
  | .contains .., h => by simp only [holds, h.get?_eq]
  | .matches .., h => by simp only [holds, h.get?_eq]
  | .compares .., h => by simp only [holds, h.get?_eq]
  | .present .., h => by simp only [holds, h.get?_eq]
  | .absent .., h => by simp only [holds, h.get?_eq]
  | .oneOf .., h => by simp only [holds, h.get?_eq]
  | .noneOf .., h => by simp only [holds, h.get?_eq]
  | .size .., h => by simp only [holds, h.get?_eq]
  | .tagMissing .., h => by simp only [holds, Option.bind_some, h.tag?_eq]
  | .tagEquals .., h => by simp only [holds, Option.bind_some, h.tag?_eq]
  | .resourceKind .., h => by simp only [holds, Option.bind_some, h.view.kind]
  | .provider .., h => by simp only [holds, Option.bind_some, h.view.provider]
  | .region .., h => by simp only [holds, Option.bind_some, h.view.region]
  | .all cs, h => by simpa only [holds] using (holds_eq_of_alike_all cs h).1
  | .any cs, h => by simpa only [holds] using (holds_eq_of_alike_all cs h).2
  | .not c, h => by simp only [holds, holds_eq_of_alike c h]
  | .custom .., _ => rfl

theorem holds_eq_of_alike_all : ∀ (cs : List Condition),
    Alike (fieldsOfAll cs) (tagsOfAll cs) data data' view view' →
      holdsAll data (some view) cs = holdsAll data' (some view') cs ∧
        holdsAny data (some view) cs = holdsAny data' (some view') cs
  | [], _ => ⟨rfl, rfl⟩
  | c :: cs, h => by
      have hc := holds_eq_of_alike c h.left
      obtain ⟨hall, hany⟩ := holds_eq_of_alike_all cs h.right
      constructor
      · simp only [holdsAll, hc, hall]
      · simp only [holdsAny, hc, hany]

end

end Condition

end Guardrail
