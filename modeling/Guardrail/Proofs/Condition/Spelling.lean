import Guardrail.Proofs.Condition.Reading
import Guardrail.Proofs.Decimal.Whole

/-!
# Spellings of conditions

A condition may be written in more ways than the one that it is given out in: with further members,
with a symbol for a comparison of sizes, with an integer for a whole bound, and with `null` for what
it does without. Whatever the spelling, the condition is read from it.
-/

namespace Guardrail

/-! ## Spellings -/

/-- A number that has the value of a binary fraction: the fraction or, if that is whole, an
integer. -/
def Number.Denotes (n : Number) (x : Float) : Prop :=
  match n with
  | .int m => (Decimal.Binary.ofFloat? x).bind Decimal.Binary.whole? = some m
  | .fraction y => y = x

theorem Number.Denotes.unsignZero_eq {n : Number} {x : Float} (h : n.Denotes x) :
    Decimal.unsignZero n.toFloat = Decimal.unsignZero x := by
  cases n with
  | int m => exact Decimal.unsignZero_ofInt h
  | fraction y => exact congrArg Decimal.unsignZero h

/-- The symbol of a comparison. -/
def SizeOrder.symbol : SizeOrder → String
  | .equal => "=="
  | .unequal => "!="
  | .above => ">"
  | .atLeast => ">="
  | .below => "<"
  | .atMost => "<="

namespace Json

/-- An object of a kind with the given members; it may have others beside them. -/
structure IsEntry (x : Json) (kind : String) (members : List (String × Json)) : Prop where
  kind : x.member? "type" = some (.text kind)
  members : ∀ m ∈ members, x.member? m.1 = some m.2

/-- A member with a text; if there is none, it may be left out or be `null`. -/
def Offers (x : Json) (name : String) (value? : Option String) : Prop :=
  match value? with
  | some value => x.member? name = some (.text value)
  | none => x.member? name = none ∨ x.member? name = some .null

end Json

namespace Condition

open Document

section

variable (writes : Number → Float → Prop)

mutual

/-- A value spells a condition if its numbers write the bounds in the condition. -/
def IsWrittenAs : Condition → Json → Prop
  | .equals field value, x => x.IsEntry "field_equals" [("field", .text field), ("value", value)]
  | .differs field value, x =>
    x.IsEntry "field_not_equals" [("field", .text field), ("value", value)]
  | .contains field value, x =>
    x.IsEntry "field_contains" [("field", .text field), ("value", value)]
  | .matches field pattern, x =>
    x.IsEntry "field_matches" [("field", .text field), ("pattern", .text pattern)]
  | .compares order field bound, x => ∃ n, writes n bound ∧
    x.IsEntry (orderKind order) [("field", .text field), ("value", .number n)]
  | .present field, x => x.IsEntry "field_exists" [("field", .text field)]
  | .absent field, x => x.IsEntry "field_not_exists" [("field", .text field)]
  | .oneOf field values, x =>
    x.IsEntry "field_in" [("field", .text field), ("values", .array values)]
  | .noneOf field values, x =>
    x.IsEntry "field_not_in" [("field", .text field), ("values", .array values)]
  | .size field order count, x => ∃ op, (op = order.name ∨ op = order.symbol) ∧
    x.IsEntry "field_size" [("field", .text field), ("op", .text op), ("value", .ofNat count)]
  | .tagMissing tag, x => x.IsEntry "tag_missing" [("tag", .text tag)]
  | .tagEquals tag value?, x =>
    x.IsEntry "tag_equals" [("tag", .text tag)] ∧ x.Offers "value" value?
  | .resourceKind value, x => x.IsEntry "resource_type" [("value", .text value)]
  | .provider value, x => x.IsEntry "provider" [("value", .text value)]
  | .region value, x => x.IsEntry "region" [("value", .text value)]
  | .all conditions, x => ∃ items, AreWrittenAs conditions items ∧
    x.IsEntry "and" [("conditions", .array items)]
  | .any conditions, x => ∃ items, AreWrittenAs conditions items ∧
    x.IsEntry "or" [("conditions", .array items)]
  | .not condition, x => ∃ y, condition.IsWrittenAs y ∧ x.IsEntry "not" [("condition", y)]
  | .custom name?, x => x.IsEntry "custom" [] ∧ x.Offers "name" name?

/-- Several values spell as many conditions. -/
def AreWrittenAs : List Condition → List Json → Prop
  | [], [] => True
  | c :: cs, x :: xs => c.IsWrittenAs x ∧ AreWrittenAs cs xs
  | _, _ => False

end

end

mutual

/-- The condition with other bounds for its numbers. -/
def mapBounds (g : Float → Float) : Condition → Condition
  | .compares order field bound => .compares order field (g bound)
  | .all conditions => .all (mapBoundsOfAll g conditions)
  | .any conditions => .any (mapBoundsOfAll g conditions)
  | .not condition => .not (condition.mapBounds g)
  | c => c

/-- The conditions with other bounds for their numbers. -/
def mapBoundsOfAll (g : Float → Float) : List Condition → List Condition
  | [] => []
  | c :: cs => c.mapBounds g :: mapBoundsOfAll g cs

end

mutual

theorem mapBounds_self : ∀ c : Condition, c.mapBounds (fun x => x) = c
  | .all cs => by rw [mapBounds, mapBoundsOfAll_self]
  | .any cs => by rw [mapBounds, mapBoundsOfAll_self]
  | .not c => by rw [mapBounds, mapBounds_self]
  | .equals .. | .differs .. | .contains .. | .matches .. | .compares .. | .present .. | .absent ..
  | .oneOf .. | .noneOf .. | .size .. | .tagMissing .. | .tagEquals .. | .resourceKind ..
  | .provider .. | .region .. | .custom .. => rfl

theorem mapBoundsOfAll_self : ∀ cs : List Condition, mapBoundsOfAll (fun x => x) cs = cs
  | [] => rfl
  | c :: cs => by rw [mapBoundsOfAll, mapBounds_self, mapBoundsOfAll_self]

end

/-! ## Reading a spelling -/

section

variable {x y : Json} {kind field name text : String} {members : List (String × Json)}

theorem exists_splitKind?_of_isEntry (hx : x.IsProper) (h : x.IsEntry kind members)
    (inner : Bool) :
    ∃ body, splitKind? (kind? inner) x.toDocument = some (kind, body) ∧ body.IsRestOf x :=
  exists_splitKind? hx.ordered h.kind rfl

theorem ofDocument?_onField {α : Type} {read : Document → Option α}
    {make : String → α → Condition} {a : α} (hx : x.IsProper)
    (h : x.IsEntry kind [("field", .text field), (name, y)]) (hkind : kind ∉ ["and", "or", "not"])
    (hleaf : ∀ body, leaf? kind body = onField? body name read make) (hname : name ≠ "type")
    (ha : read y.toDocument = some a) (inner : Bool) :
    ofDocument? inner x.toDocument = some (make field a) := by
  obtain ⟨body, hbody, hrest⟩ := exists_splitKind?_of_isEntry hx h inner
  have hfield := h.members _ List.mem_cons_self
  have hy := h.members _ (List.mem_cons_of_mem _ List.mem_cons_self)
  rw [ofDocument?_leaf hbody hkind, hleaf, onField?_of_isRestOf hrest hname hfield hy ha]

theorem ofDocument?_onValue {make : String → Json → Condition} (hx : x.IsProper)
    (h : x.IsEntry kind [("field", .text field), ("value", y)]) (hkind : kind ∉ ["and", "or", "not"])
    (hleaf : ∀ body, leaf? kind body = onField? body "value" toJson? make) (inner : Bool) :
    ofDocument? inner x.toDocument = some (make field y) := by
  have hy := hx.of_member? (h.members _ (List.mem_cons_of_mem _ List.mem_cons_self))
  exact ofDocument?_onField hx h hkind hleaf (by decide) (Json.toJson?_toDocument hy) inner

theorem ofDocument?_onValues {make : String → List Json → Condition} {values : List Json}
    (hx : x.IsProper) (h : x.IsEntry kind [("field", .text field), ("values", .array values)])
    (hkind : kind ∉ ["and", "or", "not"])
    (hleaf : ∀ body, leaf? kind body = onField? body "values" (list? toJson?) make)
    (inner : Bool) : ofDocument? inner x.toDocument = some (make field values) := by
  have hvalues := hx.of_member? (h.members _ (List.mem_cons_of_mem _ List.mem_cons_self))
  exact ofDocument?_onField hx h hkind hleaf (by decide) (list?_toJson? hvalues) inner

theorem ofDocument?_onText {make : String → Condition} (hx : x.IsProper)
    (h : x.IsEntry kind [(name, .text text)]) (hkind : kind ∉ ["and", "or", "not"])
    (hleaf : ∀ body, leaf? kind body = onText? body name make) (hname : name ≠ "type")
    (inner : Bool) : ofDocument? inner x.toDocument = some (make text) := by
  obtain ⟨body, hbody, hrest⟩ := exists_splitKind?_of_isEntry hx h inner
  rw [ofDocument?_leaf hbody hkind, hleaf,
    onText?_of_isRestOf hrest hname (h.members _ List.mem_cons_self)]

theorem ofDocument?_several_of_isEntry {make : List Condition → Condition} {items : List Json}
    {cs : List Condition} (hx : x.IsProper) (h : x.IsEntry kind [("conditions", .array items)])
    (hmake : kind = "and" ∧ make = .all ∨ kind = "or" ∧ make = .any)
    (hitems : (items.mapM fun x => ofDocument? true x.toDocument) = some cs) (inner : Bool) :
    ofDocument? inner x.toDocument = some (make cs) := by
  obtain ⟨body, hbody, hrest⟩ := exists_splitKind?_of_isEntry hx h inner
  have hmember : x.member? "conditions" = some (.array items) :=
    h.members _ List.mem_cons_self
  rw [ofDocument?_several hmake hbody (field?_of_isRestOf hrest (by decide) hmember),
    Json.itemsToDocument_eq_map, List.mapM_map]
  exact congrArg (Option.map make) hitems

theorem ofDocument?_size {order : SizeOrder} {op : String} {count : Nat} (hx : x.IsProper)
    (hop : op = order.name ∨ op = order.symbol)
    (h : x.IsEntry "field_size"
      [("field", .text field), ("op", .text op), ("value", .ofNat count)]) (inner : Bool) :
    ofDocument? inner x.toDocument = some (.size field order count) := by
  obtain ⟨body, hbody, hrest⟩ := exists_splitKind?_of_isEntry hx h inner
  obtain ⟨f, hf, hshows⟩ := hrest ["field", "op", "value"] (by decide)
  obtain ⟨hfield, hop', hcount⟩ : x.member? "field" = some (.text field) ∧
      x.member? "op" = some (.text op) ∧ x.member? "value" = some (.ofNat count) := by
    simpa using h.members
  have hname : SizeOrder.ofName? op = some order := by
    rcases hop with rfl | rfl <;> cases order <;> rfl
  have hfield := hshows.required? (by decide) hfield text?
  have hop' := hshows.required? (by decide) hop' (choice? SizeOrder.ofName?)
  have hcount := hshows.required? (by decide) hcount nat?
  rw [ofDocument?_leaf hbody (by decide)]
  simp [leaf?, hf, hfield, hop', hcount, Json.toDocument, Json.ofNat, text?, choice?, hname, nat?,
    scalar?]

theorem orElse?_of_offers {f : Fields} {names : List String} {value? : Option String}
    (h : f.Shows names x) (hname : name ∈ names) (hoffers : x.Offers name value?) :
    f.orElse? name none (option? text?) = some value? := by
  cases value? with
  | some value => exact h.orElse?_some hname hoffers none (option? text?)
  | none =>
      rcases hoffers with hnone | hnull
      · exact h.orElse?_none hname hnone none (option? text?)
      · exact h.orElse?_some hname hnull none (option? text?)

theorem ofDocument?_tagEquals {tag : String} {value? : Option String} (hx : x.IsProper)
    (h : x.IsEntry "tag_equals" [("tag", .text tag)]) (hoffers : x.Offers "value" value?)
    (inner : Bool) : ofDocument? inner x.toDocument = some (.tagEquals tag value?) := by
  obtain ⟨body, hbody, hrest⟩ := exists_splitKind?_of_isEntry hx h inner
  obtain ⟨f, hf, hshows⟩ := hrest ["tag", "value"] (by decide)
  have hmember : x.member? "tag" = some (.text tag) := h.members _ List.mem_cons_self
  have htag := hshows.required? (by decide) hmember text?
  have hvalue := orElse?_of_offers hshows (by decide) hoffers
  rw [ofDocument?_leaf hbody (by decide)]
  simp [leaf?, hf, htag, hvalue, Json.toDocument, text?]

theorem ofDocument?_custom {name? : Option String} (hx : x.IsProper) (h : x.IsEntry "custom" [])
    (hoffers : x.Offers "name" name?) (inner : Bool) :
    ofDocument? inner x.toDocument = some (.custom name?) := by
  obtain ⟨body, hbody, hrest⟩ := exists_splitKind?_of_isEntry hx h inner
  obtain ⟨f, hf, hshows⟩ := hrest ["name"] (by decide)
  have hname := orElse?_of_offers hshows (by decide) hoffers
  rw [ofDocument?_leaf hbody (by decide)]
  simp [leaf?, hf, hname]

end

variable {writes : Number → Float → Prop} {g : Float → Float}

mutual

/-- Whatever spelling a condition is read from, only bounds that are written alike can change. -/
theorem exists_ofDocument?_of_isWrittenAs (hwrites : ∀ n x, writes n x → g n.toFloat = g x) :
    ∀ {c : Condition} {x : Json}, x.IsProper → c.IsWrittenAs writes x → ∀ inner,
      ∃ c', ofDocument? inner x.toDocument = some c' ∧ c'.mapBounds g = c.mapBounds g
  | .equals field value, x, hx, h, inner =>
      ⟨_, ofDocument?_onValue hx h (by decide) (fun _ => rfl) inner, rfl⟩
  | .differs field value, x, hx, h, inner =>
      ⟨_, ofDocument?_onValue hx h (by decide) (fun _ => rfl) inner, rfl⟩
  | .contains field value, x, hx, h, inner =>
      ⟨_, ofDocument?_onValue hx h (by decide) (fun _ => rfl) inner, rfl⟩
  | .matches field pattern, x, hx, h, inner =>
      ⟨_, ofDocument?_onField hx h (by decide) (fun _ => rfl) (by decide) rfl inner, rfl⟩
  | .compares order field bound, x, hx, ⟨n, hn, h⟩, inner => by
      have hleaf : ∀ body, leaf? (orderKind order) body =
          onField? body "value" float? (.compares order) := by
        cases order <;> exact fun _ => rfl
      have hkind : orderKind order ∉ ["and", "or", "not"] := by
        cases order <;> decide
      refine ⟨_, ofDocument?_onField hx h hkind hleaf (by decide) rfl inner, ?_⟩
      rw [mapBounds, mapBounds, hwrites n bound hn]
  | .present field, x, hx, h, inner =>
      ⟨_, ofDocument?_onText hx h (by decide) (fun _ => rfl) (by decide) inner, rfl⟩
  | .absent field, x, hx, h, inner =>
      ⟨_, ofDocument?_onText hx h (by decide) (fun _ => rfl) (by decide) inner, rfl⟩
  | .oneOf field values, x, hx, h, inner =>
      ⟨_, ofDocument?_onValues hx h (by decide) (fun _ => rfl) inner, rfl⟩
  | .noneOf field values, x, hx, h, inner =>
      ⟨_, ofDocument?_onValues hx h (by decide) (fun _ => rfl) inner, rfl⟩
  | .size field order count, x, hx, ⟨op, hop, h⟩, inner =>
      ⟨_, ofDocument?_size hx hop h inner, rfl⟩
  | .tagMissing tag, x, hx, h, inner =>
      ⟨_, ofDocument?_onText hx h (by decide) (fun _ => rfl) (by decide) inner, rfl⟩
  | .tagEquals tag value?, x, hx, ⟨h, hoffers⟩, inner =>
      ⟨_, ofDocument?_tagEquals hx h hoffers inner, rfl⟩
  | .resourceKind value, x, hx, h, inner =>
      ⟨_, ofDocument?_onText hx h (by decide) (fun _ => rfl) (by decide) inner, rfl⟩
  | .provider value, x, hx, h, inner =>
      ⟨_, ofDocument?_onText hx h (by decide) (fun _ => rfl) (by decide) inner, rfl⟩
  | .region value, x, hx, h, inner =>
      ⟨_, ofDocument?_onText hx h (by decide) (fun _ => rfl) (by decide) inner, rfl⟩
  | .all cs, x, hx, ⟨items, hitems, h⟩, inner => by
      have hproper := hx.of_member? (h.members _ List.mem_cons_self)
      obtain ⟨cs', hcs', hbounds⟩ :=
        exists_mapM_of_areWrittenAs hwrites (Json.isProper_array.mp hproper) hitems
      refine ⟨_, ofDocument?_several_of_isEntry hx h (.inl ⟨rfl, rfl⟩) hcs' inner, ?_⟩
      rw [mapBounds, mapBounds, hbounds]
  | .any cs, x, hx, ⟨items, hitems, h⟩, inner => by
      have hproper := hx.of_member? (h.members _ List.mem_cons_self)
      obtain ⟨cs', hcs', hbounds⟩ :=
        exists_mapM_of_areWrittenAs hwrites (Json.isProper_array.mp hproper) hitems
      refine ⟨_, ofDocument?_several_of_isEntry hx h (.inr ⟨rfl, rfl⟩) hcs' inner, ?_⟩
      rw [mapBounds, mapBounds, hbounds]
  | .not c, x, hx, ⟨y, hy, h⟩, inner => by
      have hmember := h.members _ List.mem_cons_self
      obtain ⟨c', hc', hbounds⟩ :=
        exists_ofDocument?_of_isWrittenAs hwrites (hx.of_member? hmember) hy true
      obtain ⟨body, hbody, hrest⟩ := exists_splitKind?_of_isEntry hx h inner
      refine ⟨.not c', ?_, by rw [mapBounds, mapBounds, hbounds]⟩
      rw [ofDocument?_not hbody (field?_of_isRestOf hrest (by decide) hmember), hc',
        Option.map_some]
  | .custom name?, x, hx, ⟨h, hoffers⟩, inner =>
      ⟨_, ofDocument?_custom hx h hoffers inner, rfl⟩

theorem exists_mapM_of_areWrittenAs (hwrites : ∀ n x, writes n x → g n.toFloat = g x) :
    ∀ {cs : List Condition} {xs : List Json}, (∀ x ∈ xs, x.IsProper) →
      AreWrittenAs writes cs xs →
      ∃ cs', (xs.mapM fun x => ofDocument? true x.toDocument) = some cs' ∧
        mapBoundsOfAll g cs' = mapBoundsOfAll g cs
  | [], [], _, _ => ⟨[], rfl, rfl⟩
  | c :: cs, x :: xs, hproper, ⟨hx, hxs⟩ => by
      obtain ⟨hpx, hpxs⟩ := List.forall_mem_cons.mp hproper
      obtain ⟨c', hc', hbounds⟩ := exists_ofDocument?_of_isWrittenAs hwrites hpx hx true
      obtain ⟨cs', hcs', hrest⟩ := exists_mapM_of_areWrittenAs hwrites hpxs hxs
      refine ⟨c' :: cs', ?_, ?_⟩
      · simp [hc', hcs']
      · rw [mapBoundsOfAll, mapBoundsOfAll, hbounds, hrest]

end

end Condition

end Guardrail
