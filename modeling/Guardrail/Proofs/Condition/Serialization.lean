import Guardrail.Proofs.Condition.Spelling

/-!
# Conditions as they are given out

The value of a condition is one of its spellings, the one in which every bound stands as it is. So
it is read back exactly.
-/

namespace Guardrail

namespace Condition

mutual

/-- Whether a condition can be written down: its bounds are finite, and so are the numbers in its
values. -/
def IsProper : Condition → Prop
  | .equals _ value => value.IsProper
  | .differs _ value => value.IsProper
  | .contains _ value => value.IsProper
  | .compares _ _ bound => bound.isFinite = true
  | .oneOf _ values => ∀ value ∈ values, value.IsProper
  | .noneOf _ values => ∀ value ∈ values, value.IsProper
  | .all conditions => AreProper conditions
  | .any conditions => AreProper conditions
  | .not condition => condition.IsProper
  | _ => True

/-- Whether several conditions can be written down. -/
def AreProper : List Condition → Prop
  | [] => True
  | c :: cs => c.IsProper ∧ AreProper cs

end

/-! ## Entries -/

theorem isProper_entry (kind : String) {members : List (String × Json)}
    (h : ∀ m ∈ members, m.2.IsProper) : (entry kind members).IsProper :=
  Json.isProper_ofMembers (List.forall_mem_cons.mpr ⟨⟨rfl, rfl⟩, h⟩)

theorem isEntry_entry (kind : String) {members : List (String × Json)}
    (h : ("type" :: members.map Prod.fst).Nodup) : (entry kind members).IsEntry kind members := by
  have hnodup : ((("type", Json.text kind) :: members).map Prod.fst).Nodup := h
  exact ⟨Json.member?_ofMembers_of_mem hnodup List.mem_cons_self,
    fun m hm => Json.member?_ofMembers_of_mem hnodup (List.mem_cons_of_mem _ hm)⟩

theorem isEntry_and_offers_entry (kind name : String) (value? : Option String)
    (members : List (String × Json)) (h : ("type" :: members.map Prod.fst).Nodup)
    (hname : name ∉ "type" :: members.map Prod.fst) :
    (entry kind (members ++ optionalMember name value?)).IsEntry kind members ∧
      (entry kind (members ++ optionalMember name value?)).Offers name value? := by
  cases value? with
  | none =>
      have hmembers : members ++ optionalMember name none = members := List.append_nil members
      rw [hmembers]
      refine ⟨isEntry_entry kind h, .inl ?_⟩
      have hnodup : ((("type", Json.text kind) :: members).map Prod.fst).Nodup := h
      rw [entry, Json.member?_ofMembers hnodup]
      exact lookup_eq_none_of_notMem hname
  | some value =>
      have hnodup : ("type" :: (members ++ [(name, Json.text value)]).map Prod.fst).Nodup := by
        rw [List.map_append, ← List.cons_append]
        exact List.nodup_append.mpr ⟨h, by simp, by
          rintro a ha b hb rfl
          obtain rfl : a = name := by simpa using hb
          exact hname ha⟩
      have hentry := isEntry_entry kind hnodup
      exact ⟨⟨hentry.kind, fun m hm => hentry.members m (List.mem_append_left _ hm)⟩,
        hentry.members (name, .text value) (by simp)⟩

mutual

/-- The value of a condition can be written down. -/
theorem isProper_toJson : ∀ {c : Condition}, c.IsProper → c.toJson.IsProper
  | .equals field value, h => isProper_entry _ (by simpa [IsProper] using h)
  | .differs field value, h => isProper_entry _ (by simpa [IsProper] using h)
  | .contains field value, h => isProper_entry _ (by simpa [IsProper] using h)
  | .matches field pattern, _ => isProper_entry _ (by simp)
  | .compares order field bound, h => isProper_entry _ (by simp)
  | .present field, _ => isProper_entry _ (by simp)
  | .absent field, _ => isProper_entry _ (by simp)
  | .oneOf field values, h => isProper_entry _ (by simpa [IsProper, Json.isProper_array] using h)
  | .noneOf field values, h => isProper_entry _ (by simpa [IsProper, Json.isProper_array] using h)
  | .size field order count, _ => isProper_entry _ (by simp)
  | .tagMissing tag, _ => isProper_entry _ (by simp)
  | .tagEquals tag value?, _ => isProper_entry _ (by cases value? <;> simp [optionalMember])
  | .resourceKind value, _ => isProper_entry _ (by simp)
  | .provider value, _ => isProper_entry _ (by simp)
  | .region value, _ => isProper_entry _ (by simp)
  | .all cs, h => isProper_entry _ (by simpa [Json.isProper_array] using isProper_toJsonList h)
  | .any cs, h => isProper_entry _ (by simpa [Json.isProper_array] using isProper_toJsonList h)
  | .not c, h => isProper_entry _ (by simpa using isProper_toJson (c := c) h)
  | .custom name?, _ => isProper_entry _ (by cases name? <;> simp [optionalMember])

theorem isProper_toJsonList : ∀ {cs : List Condition}, AreProper cs →
    ∀ x ∈ toJsonList cs, x.IsProper
  | [], _ => by simp [toJsonList]
  | c :: cs, ⟨hc, hcs⟩ =>
      List.forall_mem_cons.mpr ⟨isProper_toJson hc, isProper_toJsonList hcs⟩

end

section

variable {writes : Number → Float → Prop}

mutual

/-- The value of a condition spells it if the bounds may stand as they are. -/
theorem isWrittenAs_toJson (hwrites : ∀ x, writes (.fraction x) x) :
    ∀ {c : Condition}, c.IsProper → c.IsWrittenAs writes c.toJson
  | .equals field value, _ => isEntry_entry _ (by simp)
  | .differs field value, _ => isEntry_entry _ (by simp)
  | .contains field value, _ => isEntry_entry _ (by simp)
  | .matches field pattern, _ => isEntry_entry _ (by simp)
  | .compares order field bound, h => by
      have hbound : Json.ofFloat bound = .number (.fraction bound) := if_pos h
      refine ⟨.fraction bound, hwrites bound, ?_⟩
      rw [toJson, hbound]
      exact isEntry_entry _ (by simp)
  | .present field, _ => isEntry_entry _ (by simp)
  | .absent field, _ => isEntry_entry _ (by simp)
  | .oneOf field values, _ => isEntry_entry _ (by simp)
  | .noneOf field values, _ => isEntry_entry _ (by simp)
  | .size field order count, _ => ⟨order.name, .inl rfl, isEntry_entry _ (by simp)⟩
  | .tagMissing tag, _ => isEntry_entry _ (by simp)
  | .tagEquals tag value?, _ =>
      isEntry_and_offers_entry _ "value" value? [("tag", .text tag)] (by simp) (by simp)
  | .resourceKind value, _ => isEntry_entry _ (by simp)
  | .provider value, _ => isEntry_entry _ (by simp)
  | .region value, _ => isEntry_entry _ (by simp)
  | .all cs, h => ⟨toJsonList cs, areWrittenAs_toJsonList hwrites h, isEntry_entry _ (by simp)⟩
  | .any cs, h => ⟨toJsonList cs, areWrittenAs_toJsonList hwrites h, isEntry_entry _ (by simp)⟩
  | .not c, h => ⟨c.toJson, isWrittenAs_toJson hwrites h, isEntry_entry _ (by simp)⟩
  | .custom name?, _ => isEntry_and_offers_entry _ "name" name? [] (by simp) (by simp)

theorem areWrittenAs_toJsonList (hwrites : ∀ x, writes (.fraction x) x) :
    ∀ {cs : List Condition}, AreProper cs → AreWrittenAs writes cs (toJsonList cs)
  | [], _ => trivial
  | _ :: _, ⟨hc, hcs⟩ => ⟨isWrittenAs_toJson hwrites hc, areWrittenAs_toJsonList hwrites hcs⟩

end

end

end Condition

end Guardrail
