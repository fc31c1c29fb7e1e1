import Guardrail.Compliance.Safeguard
import Guardrail.Proofs.Json.Documents

/-!
# Further signals

A safeguard that nothing rules out holds if one of its signals is given. A further attribute takes
no signal away, with one exception: of the attributes that are compared with a threshold only the
first number counts, and one that misses the threshold may come to stand in front.
-/

namespace Guardrail.Compliance

/-- The signals without the threshold. -/
def Signals.unmeasured (s : Signals) : Signals :=
  { s with threshold? := none }

namespace Context

variable {ctx ctx' : Context} {key : String} {value : Json} {keys : List String} {t : Threshold}
  {s : Signals}

/-! ## More attributes -/

theorem hasEdge_congr (h : ctx'.edges = ctx.edges) : ctx'.hasEdge = ctx.hasEdge := by
  funext kind
  rw [hasEdge, relationships, h, hasEdge, relationships]

theorem hasNeighbour_congr (h : ctx'.neighbours = ctx.neighbours) :
    ctx'.hasNeighbour = ctx.hasNeighbour := by
  funext fragment
  rw [hasNeighbour, h, hasNeighbour]

/-- The context has all that another one has, and perhaps further attributes. -/
structure Records (ctx' ctx : Context) : Prop where
  attributes : ∀ k v, ctx.attribute? k = some v → ctx'.attribute? k = some v
  tags : ctx'.tag? = ctx.tag?
  edges : ctx'.edges = ctx.edges
  neighbours : ctx'.neighbours = ctx.neighbours

/-- The context of the same resource with one more attribute. -/
def record (ctx : Context) (key : String) (value : Json) : Context :=
  { ctx with resource := ctx.resource.withMetadata key value }

/-- The context of the same resource with one attribute and no other. -/
def only (ctx : Context) (key : String) (value : Json) : Context :=
  { ctx with resource := { ctx.resource with metadata := [(key, value)] } }

theorem attribute?_record (ctx : Context) (key : String) (value : Json) (k : String) :
    (ctx.record key value).attribute? k = if k = key then some value else ctx.attribute? k :=
  Json.lookup_putMember k key value ctx.resource.metadata

theorem records_record (hkey : ctx.attribute? key = none) (value : Json) :
    (ctx.record key value).Records ctx where
  attributes := by
    intro k v hk
    have hne : k ≠ key := by
      rintro rfl
      rw [hkey] at hk
      cases hk
    rw [attribute?_record, if_neg hne, hk]
  tags := rfl
  edges := rfl
  neighbours := rfl

theorem records_only (hkey : ctx.attribute? key = some value) :
    ctx.Records (ctx.only key value) where
  attributes := by
    intro k v hk
    have honly : (ctx.only key value).attribute? k = if k = key then some value else none :=
      lookup_cons_eq k key value []
    rw [honly, Option.ite_none_right_eq_some] at hk
    obtain ⟨rfl, hv⟩ := hk
    rw [hkey, hv]
  tags := rfl
  edges := rfl
  neighbours := rfl

namespace Records

/-- What one of several attributes says, it says beside others. -/
theorem any_attributes (h : ctx'.Records ctx) {p : Json → Bool}
    (hp : (ctx.attributes keys).any p = true) : (ctx'.attributes keys).any p = true := by
  obtain ⟨v, hv, hpv⟩ := List.any_eq_true.mp hp
  obtain ⟨k, hk, hkv⟩ := List.mem_filterMap.mp hv
  exact List.any_eq_true.mpr ⟨v, List.mem_filterMap.mpr ⟨k, hk, h.attributes k v hkv⟩, hpv⟩

theorem tagPasses_eq (h : ctx'.Records ctx) : ctx'.tagPasses = ctx.tagPasses := by
  funext key test
  rw [tagPasses, h.tags, tagPasses]

theorem number?_ne_none (h : ctx'.Records ctx) (hkeys : ctx.number? keys ≠ none) :
    ctx'.number? keys ≠ none := by
  rw [number?, ne_eq, List.findSome?_eq_none_iff] at hkeys ⊢
  intro hnone
  refine hkeys fun v hv => ?_
  obtain ⟨k, hk, hkv⟩ := List.mem_filterMap.mp hv
  exact hnone v (List.mem_filterMap.mpr ⟨k, hk, h.attributes k v hkv⟩)

end Records

/-! ## One signal among several -/

theorem flag_nil (ctx : Context) : ctx.flag [] = false :=
  rfl

theorem gives_unmeasured_of_records (hs : s.exclusions = []) (h : ctx'.Records ctx)
    (hgives : ctx.gives s.unmeasured = true) : ctx'.gives s.unmeasured = true := by
  have hflags : ctx.flag s.flags = true → ctx'.flag s.flags = true := h.any_attributes
  have htraces : ctx.present s.traces = true → ctx'.present s.traces = true := h.any_attributes
  simp only [gives, Signals.unmeasured, hs, flag_nil, hasEdge_congr h.edges,
    hasNeighbour_congr h.neighbours, h.tagPasses_eq, Bool.not_false, Bool.true_and,
    Option.any_none, Bool.or_false, Bool.or_eq_true] at hgives ⊢
  exact hgives.imp_left (Or.imp_left (Or.imp_left (Or.imp hflags htraces)))

theorem gives_eq_or (hs : s.exclusions = []) :
    ctx.gives s = (ctx.gives s.unmeasured || s.threshold?.any ctx.reaches) := by
  simp only [gives, Signals.unmeasured, hs, flag_nil, Bool.not_false, Bool.true_and,
    Option.any_none, Bool.or_false]
  ac_rfl

/-! ## The first number -/

theorem number?_cons (ctx : Context) (k : String) (keys : List String) :
    ctx.number? (k :: keys) = ((ctx.attribute? k).bind measured?).or (ctx.number? keys) := by
  rw [number?, attributes, List.filterMap_cons]
  cases ctx.attribute? k with
  | none => rfl
  | some v =>
      rw [Option.bind_some, List.findSome?_cons]
      cases measured? v <;> rfl

theorem number?_append (ctx : Context) (front back : List String) :
    ctx.number? (front ++ back) = (ctx.number? front).or (ctx.number? back) := by
  rw [number?, attributes, List.filterMap_append, List.findSome?_append]
  rfl

theorem number?_congr
    (h : ∀ k ∈ keys, (ctx'.attribute? k).bind measured? = (ctx.attribute? k).bind measured?) :
    ctx'.number? keys = ctx.number? keys := by
  induction keys with
  | nil => rfl
  | cons k keys ih =>
      obtain ⟨hk, hkeys⟩ := List.forall_mem_cons.mp h
      rw [number?_cons, number?_cons, hk, ih hkeys]

theorem number?_record_of_notMem (h : key ∉ keys) :
    (ctx.record key value).number? keys = ctx.number? keys := by
  refine number?_congr fun k hk => ?_
  have hne : k ≠ key := fun he => h (he ▸ hk)
  rw [attribute?_record, if_neg hne]

theorem number?_record_of_none (hkey : ctx.attribute? key = none) (hv : measured? value = none)
    (keys : List String) : (ctx.record key value).number? keys = ctx.number? keys := by
  refine number?_congr fun k _ => ?_
  rw [attribute?_record]
  split
  · rename_i hk
    rw [hk, hkey, Option.bind_some, hv, Option.bind_none]
  · rfl

/-- A further attribute takes its place among those that are asked for. -/
theorem number?_record (hkey : ctx.attribute? key = none) (h : key ∈ keys) :
    (ctx.record key value).number? keys =
      (ctx.number? (keys.takeWhile (· ≠ key))).or ((measured? value).or (ctx.number? keys)) := by
  induction keys with
  | nil => cases h
  | cons k keys ih =>
      by_cases hk : k = key
      · subst hk
        rw [List.takeWhile_cons_of_neg (by simp), number?_cons, number?_cons, attribute?_record,
          if_pos rfl, hkey, Option.bind_some, Option.bind_none, Option.none_or]
        cases hv : measured? value with
        | none => rw [number?_record_of_none hkey hv]; rfl
        | some x => rfl
      · have hrest : key ∈ keys := (List.mem_cons.mp h).resolve_left (Ne.symm hk)
        rw [List.takeWhile_cons_of_pos (by simpa using hk), number?_cons, number?_cons,
          number?_cons, ih hrest, attribute?_record, if_neg hk]
        cases (ctx.attribute? k).bind measured? <;> rfl

/-- The number that counts for a threshold misses it. -/
def Misses (ctx : Context) (t : Threshold) : Prop :=
  ∃ x, ctx.number? t.keys = some x ∧ t.order.holds x t.bound = false

/-- An attribute is asked for before every number that the context has for a threshold, and its own
number misses the threshold. -/
structure Preempts (ctx : Context) (t : Threshold) (key : String) (value : Json) : Prop where
  mem : key ∈ t.keys
  first : ctx.number? (t.keys.takeWhile (· ≠ key)) = none
  misses : ∃ x, measured? value = some x ∧ t.order.holds x t.bound = false

theorem reaches_of_number? {x : Float} (h : ctx.number? t.keys = some x) :
    ctx.reaches t = t.order.holds x t.bound := by
  rw [reaches, h, Option.any_some]

theorem Misses.reaches_eq (h : ctx.Misses t) : ctx.reaches t = false := by
  obtain ⟨x, hx, hmisses⟩ := h
  rw [reaches_of_number? hx, hmisses]

theorem misses_record_of_preempts (hkey : ctx.attribute? key = none)
    (h : ctx.Preempts t key value) : (ctx.record key value).Misses t := by
  obtain ⟨x, hx, hmisses⟩ := h.misses
  refine ⟨x, ?_, hmisses⟩
  rw [number?_record hkey h.mem, h.first, hx]
  rfl

/-- A number that misses where another one reached the threshold is that of the new attribute. -/
theorem preempts_of_misses_record (hkey : ctx.attribute? key = none) (h : ctx.reaches t = true)
    (hmisses : (ctx.record key value).Misses t) : ctx.Preempts t key value := by
  obtain ⟨x, hx, hholds⟩ := hmisses
  have hother : ctx.number? t.keys ≠ some x := by
    intro hold
    rw [reaches_of_number? hold, hholds] at h
    cases h
  by_cases hmem : key ∈ t.keys
  · rw [number?_record hkey hmem] at hx
    cases hfront : ctx.number? (t.keys.takeWhile (· ≠ key)) with
    | some y =>
        have hold : ctx.number? t.keys = some y := by
          rw [← List.takeWhile_append_dropWhile (p := (· ≠ key)) (l := t.keys), number?_append,
            hfront, Option.some_or]
        rw [hfront, Option.some_or] at hx
        exact absurd (hold.trans hx) hother
    | none =>
        rw [hfront, Option.none_or] at hx
        cases hv : measured? value with
        | some y =>
            rw [hv, Option.some_or] at hx
            obtain rfl := Option.some.inj hx
            exact ⟨hmem, hfront, y, hv, hholds⟩
        | none =>
            rw [hv, Option.none_or] at hx
            exact absurd hx hother
  · rw [number?_record_of_notMem hmem] at hx
    exact absurd hx hother

/-- What reached a threshold reaches it beside more attributes, unless one of those counts instead
and misses it. -/
theorem Records.reaches_of_not_misses (h : ctx'.Records ctx) (hreaches : ctx.reaches t = true)
    (hfree : ¬ctx'.Misses t) : ctx'.reaches t = true := by
  have hkeys : ctx.number? t.keys ≠ none := by
    intro hnone
    rw [reaches, hnone] at hreaches
    cases hreaches
  obtain ⟨x, hx⟩ := Option.ne_none_iff_exists'.mp (h.number?_ne_none hkeys)
  rw [reaches_of_number? hx]
  cases hholds : t.order.holds x t.bound with
  | true => rfl
  | false => exact absurd ⟨x, hx, hholds⟩ hfree

end Context

namespace Safeguard

open Context

variable {s : Safeguard} {ctx ctx' : Context}

/-! ## Safeguards -/

theorem exclusions_eq_nil (h : s ≠ .isolation) : s.signals.exclusions = [] := by
  cases s with
  | isolation => exact absurd rfl h
  | _ => rfl

theorem holds_iff (h : s ≠ .isolation) :
    s.holds ctx = true ↔ ctx.gives s.signals.unmeasured = true ∨
      ∃ t, s.signals.threshold? = some t ∧ ctx.reaches t = true := by
  rw [holds, gives_eq_or (exclusions_eq_nil h), Bool.or_eq_true]
  cases s.signals.threshold? <;> simp

theorem holds_iff_of_records (hs : s ≠ .isolation) (h : ctx'.Records ctx)
    (hholds : s.holds ctx = true) :
    s.holds ctx' = true ↔
      ∀ t, s.signals.threshold? = some t → ctx'.Misses t →
        ctx'.gives s.signals.unmeasured = true := by
  rw [holds_iff hs] at hholds ⊢
  constructor
  · rintro (hother | ⟨t, ht, hreaches⟩) t' ht' hmisses
    · exact hother
    · obtain rfl := Option.some.inj (ht.symm.trans ht')
      rw [hmisses.reaches_eq] at hreaches
      cases hreaches
  · intro hall
    rcases hholds with hother | ⟨t, ht, hreaches⟩
    · exact .inl (gives_unmeasured_of_records (exclusions_eq_nil hs) h hother)
    · by_cases hmisses : ctx'.Misses t
      · exact .inl (hall t ht hmisses)
      · exact .inr ⟨t, ht, h.reaches_of_not_misses hreaches hmisses⟩

/-- A safeguard holds beside one more attribute, unless it rests on a number alone, and the
attribute has another one that is asked for first and misses. Where one attribute is enough, the
safeguard holds unless the number that counts misses and there is no other signal. -/
theorem holds_record_iff (hs : s ≠ .isolation) (ctx : Context) (key : String) (value : Json) :
    (ctx.attribute? key = none → s.holds ctx = true →
      (s.holds (ctx.record key value) = true ↔
        ∀ t, s.signals.threshold? = some t → ctx.Preempts t key value →
          (ctx.record key value).gives s.signals.unmeasured = true)) ∧
    (ctx.attribute? key = some value → s.holds (ctx.only key value) = true →
      (s.holds ctx = true ↔
        ∀ t, s.signals.threshold? = some t → ctx.Misses t →
          ctx.gives s.signals.unmeasured = true)) := by
  refine ⟨fun hkey h => ?_, fun hkey => holds_iff_of_records hs (records_only hkey)⟩
  have hrecords := records_record hkey value
  rw [holds_iff_of_records hs hrecords h]
  constructor
  · intro hall t ht hpreempts
    exact hall t ht (misses_record_of_preempts hkey hpreempts)
  · intro hall t ht hmisses
    rcases (holds_iff hs).mp h with hother | ⟨t', ht', hreaches⟩
    · exact gives_unmeasured_of_records (exclusions_eq_nil hs) hrecords hother
    · obtain rfl := Option.some.inj (ht.symm.trans ht')
      exact hall t ht (preempts_of_misses_record hkey hreaches hmisses)

/-- A smaller number that is asked for later changes nothing, nor does one that counts beside a
flag. -/
theorem holds_beside_smaller_numbers :
    let kept := Context.alone
      ((Resource.new "a" "rds_instance" "aws").withMetadata "backup_retention_days" (.text " 7 "))
    let doubled := ((Context.alone (.new "b" "rds_instance" "aws")).record "replicas"
      (.ofNat 1)).record "replica_count" (.ofNat 3) |>.record "multiAz" (.text "Yes")
    (kept.attribute? "backupRetentionPeriod" = none ∧ backup.holds kept = true ∧
      backup.holds (kept.record "backupRetentionPeriod" (.ofNat 0)) = true) ∧
    doubled.attribute? "replica_count" = some (.ofNat 3) ∧
      availability.holds (doubled.only "replica_count" (.ofNat 3)) = true ∧
      availability.holds doubled = true := by
  intro kept doubled
  have hkept : backup.holds kept = true := by decide +kernel
  have honly : availability.holds (doubled.only "replica_count" (.ofNat 3)) = true := by
    decide +kernel
  have hlater := (holds_record_iff (by decide) kept "backupRetentionPeriod" (.ofNat 0)).1 rfl hkept
  have hbeside := (holds_record_iff (by decide) doubled "replica_count" (.ofNat 3)).2 rfl honly
  refine ⟨⟨rfl, hkept, hlater.mpr fun t ht hpreempts => ?_⟩, rfl, honly,
    hbeside.mpr fun _ _ _ => by decide +kernel⟩
  obtain rfl := Option.some.inj ht
  exact absurd hpreempts.first (by decide +kernel)

/-- A smaller number under a key that is asked for first counts instead. -/
theorem not_holds_beside_earlier_number :
    let resource := Resource.new "r" "rds_instance" "aws"
    let kept := Context.alone (resource.withMetadata "backupRetentionPeriod" (.ofNat 7))
    let doubled := Context.alone (resource.withMetadata "replica_count" (.ofNat 3))
    let guarded := Context.alone (resource.withMetadata "minimumPasswordLength" (.ofNat 14))
    (kept.attribute? "backup_retention_days" = none ∧ backup.holds kept = true ∧
      backup.holds (kept.record "backup_retention_days" (.ofNat 0)) = false) ∧
    (doubled.attribute? "replicas" = none ∧ availability.holds doubled = true ∧
      availability.holds (doubled.record "replicas" (.ofNat 1)) = false) ∧
    (guarded.attribute? "password_min_length" = none ∧ authentication.holds guarded = true ∧
      authentication.holds (guarded.record "password_min_length" (.text "8")) = false) := by
  decide +kernel

end Safeguard

end Guardrail.Compliance
