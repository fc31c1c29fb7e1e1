import Guardrail.Proofs.Compliance.Signals
import Guardrail.Proofs.Decimal.Letters
import Mathlib.Data.List.Forall2

/-!
# Other spellings

Recorded texts may have blanks around them, and letters of either case. What a control sees in them
does not depend on that, with one exception: the tag that names a kind of backup is compared with
the words that deny one without its blanks being taken off.
-/

namespace Guardrail

/-! ## Values and tables -/

/-- The values differ in nothing but the spelling of texts in them. -/
inductive Json.Respells : Json → Json → Prop where
  | same (x : Json) : Respells x x
  | text {s t : String} (h : Text.Respelling s t) : Respells (.text s) (.text t)
  | array {xs ys : List Json} (h : List.Forall₂ Respells xs ys) : Respells (.array xs) (.array ys)
  | object {ms ns : List (String × Json)} (hkeys : ms.map Prod.fst = ns.map Prod.fst)
      (h : List.Forall₂ Respells (ms.map Prod.snd) (ns.map Prod.snd)) :
      Respells (.object ms) (.object ns)

/-- The tables have the same keys, and related values under each. -/
def TablesRelated {α : Type} (r : α → α → Prop) : List (String × α) → List (String × α) → Prop :=
  List.Forall₂ fun m n => m.1 = n.1 ∧ r m.2 n.2

theorem TablesRelated.map_lookup {α β : Type} {r : α → α → Prop} {f : α → β}
    {ms ns : List (String × α)} (h : TablesRelated r ms ns) (hf : ∀ x y, r x y → f x = f y)
    (key : String) : (ms.lookup key).map f = (ns.lookup key).map f := by
  induction h with
  | nil => rfl
  | @cons m n ms ns hmn _ ih =>
      obtain ⟨hkey, hvalue⟩ := hmn
      rw [lookup_cons_eq, lookup_cons_eq, hkey]
      split
      · exact congrArg some (hf _ _ hvalue)
      · exact ih

namespace Compliance

open Text (Respelling normal lower strip respelling_iff lower_eq_normal_iff)

/-! ## What is read of a value -/

theorem isTruthy_text (s : String) :
    isTruthy (.text s) = decide (normal s ∈ ["true", "yes", "enabled", "on"]) :=
  rfl

theorem isTruthy_of_respells {x y : Json} (h : x.Respells y) : isTruthy x = isTruthy y := by
  cases h with
  | same => rfl
  | text h => rw [isTruthy_text, isTruthy_text, respelling_iff.mp h]
  | array | object => rfl

/-- Whether a text is blank can be told from its normal spelling. -/
theorem isEmpty_trim (s : String) :
    (Text.trim s.toList).isEmpty = (normal s).toList.isEmpty := by
  rw [normal, lower, strip, String.toList_ofList, String.toList_ofList, List.isEmpty_map]

theorem isPresent_of_respells {x y : Json} (h : x.Respells y) : isPresent x = isPresent y := by
  cases h with
  | same => rfl
  | text h => rw [isPresent, isPresent, isEmpty_trim, isEmpty_trim, respelling_iff.mp h]
  | array h => cases h <;> rfl
  | object hkeys =>
      have hempty := congrArg List.isEmpty hkeys
      rw [List.isEmpty_map, List.isEmpty_map] at hempty
      rw [isPresent, isPresent, hempty]

theorem measured?_text (s : String) :
    measured? (.text s) = Decimal.float? (normal s).toList := by
  rw [measured?, normal, lower, strip, String.toList_ofList, String.toList_ofList,
    Decimal.float?_map_toLower]

theorem measured?_of_respells {x y : Json} (h : x.Respells y) : measured? x = measured? y := by
  cases h with
  | same => rfl
  | text h => rw [measured?_text, measured?_text, respelling_iff.mp h]
  | array | object => rfl

/-! ## What is read of a tag -/

theorem passes_oneOf (words : List String) (v : String) :
    (TagTest.oneOf words).passes v = words.any fun w => lower w == normal v :=
  rfl

/-- A word denies those of its spellings that have no blanks around them. -/
theorem passes_noneOf_iff {words : List String} (hwords : ∀ w ∈ words, strip w = w) {v : String} :
    (TagTest.noneOf words).passes v = true ↔ (normal v ∈ words → strip v ≠ v) := by
  rw [TagTest.passes, decide_eq_true_eq]
  constructor
  · intro h hnormal htight
    exact h ((lower_eq_normal_iff v).mpr htight ▸ hnormal)
  · intro h hlower
    have heq : lower v = normal v := by
      rw [Text.normal_eq_strip_lower, hwords _ hlower]
    exact h (heq ▸ hlower) ((lower_eq_normal_iff v).mp heq)

/-- The signals without the tag. -/
def Signals.untagged (s : Signals) : Signals :=
  { s with tag? := none }

namespace Context

variable {ctx ctx' : Context} {s : Signals} {words : List String}

/-! ## Other spellings of a resource -/

/-- The context of a resource whose tags and attributes are those of another one, up to the spelling
of texts in them, with the same relationships. -/
structure Respells (ctx' ctx : Context) : Prop where
  tags : TablesRelated Respelling ctx'.resource.tags ctx.resource.tags
  metadata : TablesRelated Json.Respells ctx'.resource.metadata ctx.resource.metadata
  edges : ctx'.edges = ctx.edges
  neighbours : ctx'.neighbours = ctx.neighbours

namespace Respells

theorem map_normal_tag? (h : ctx'.Respells ctx) (key : String) :
    (ctx'.tag? key).map normal = (ctx.tag? key).map normal :=
  h.tags.map_lookup (fun _ _ => respelling_iff.mp) key

/-- A property of tags that their spelling does not touch. -/
theorem any_tag?_eq (h : ctx'.Respells ctx) {p : String → Bool}
    (hp : ∀ v v', normal v = normal v' → p v = p v') (key : String) :
    (ctx'.tag? key).any p = (ctx.tag? key).any p := by
  have hmap : (ctx'.tag? key).map p = (ctx.tag? key).map p :=
    h.tags.map_lookup (fun v v' hv => hp v v' (respelling_iff.mp hv)) key
  simpa [Option.any_map] using congrArg (Option.any id) hmap

/-- What is read of attributes, if their spelling does not touch it. -/
theorem map_attributes_eq {α : Type} (h : ctx'.Respells ctx) {f : Json → α}
    (hf : ∀ x y, x.Respells y → f x = f y) (keys : List String) :
    (ctx'.attributes keys).map f = (ctx.attributes keys).map f := by
  have hvalue : ∀ k, (ctx'.attribute? k).map f = (ctx.attribute? k).map f :=
    fun k => h.metadata.map_lookup hf k
  simp only [attributes, List.map_filterMap, hvalue]

theorem flag_eq (h : ctx'.Respells ctx) : ctx'.flag = ctx.flag := by
  funext keys
  have hmap := h.map_attributes_eq (fun _ _ => isTruthy_of_respells) keys
  simpa [flag, List.any_map] using congrArg (List.any · id) hmap

theorem present_eq (h : ctx'.Respells ctx) : ctx'.present = ctx.present := by
  funext keys
  have hmap := h.map_attributes_eq (fun _ _ => isPresent_of_respells) keys
  simpa [present, List.any_map] using congrArg (List.any · id) hmap

theorem reaches_eq (h : ctx'.Respells ctx) : ctx'.reaches = ctx.reaches := by
  funext t
  have hmap := h.map_attributes_eq (fun _ _ => measured?_of_respells) t.keys
  have hnumber : ctx'.number? t.keys = ctx.number? t.keys := by
    simpa [number?, List.findSome?_map] using congrArg (List.findSome? id) hmap
  rw [reaches, hnumber, reaches]

theorem carries_eq (h : ctx'.Respells ctx) : ctx'.carries = ctx.carries := by
  funext tag
  refine h.any_tag?_eq (fun v v' hv => ?_) tag
  rw [isEmpty_trim, isEmpty_trim, hv]

theorem tagPasses_oneOf_eq (h : ctx'.Respells ctx) (key : String) (words : List String) :
    ctx'.tagPasses key (.oneOf words) = ctx.tagPasses key (.oneOf words) := by
  refine h.any_tag?_eq (fun v v' hv => ?_) key
  rw [passes_oneOf, passes_oneOf, hv]

theorem tagPasses_noneOf_eq_iff (h : ctx'.Respells ctx) (hwords : ∀ w ∈ words, strip w = w)
    (key : String) :
    ctx'.tagPasses key (.noneOf words) = ctx.tagPasses key (.noneOf words) ↔
      ∀ v v', ctx.tag? key = some v → ctx'.tag? key = some v' → normal v ∈ words →
        (strip v' = v' ↔ strip v = v) := by
  have hnormal := h.map_normal_tag? key
  rw [tagPasses, tagPasses]
  cases htag : ctx.tag? key with
  | none =>
      rw [htag, Option.map_none, Option.map_eq_none_iff] at hnormal
      simp [hnormal]
  | some v =>
      obtain ⟨v', htag', hv'⟩ := Option.map_eq_some_iff.mp (hnormal.trans (by rw [htag]; rfl))
      have htest : (TagTest.noneOf words).passes v' = (TagTest.noneOf words).passes v ↔
          (normal v ∈ words → (strip v' = v' ↔ strip v = v)) := by
        rw [Bool.eq_iff_iff, passes_noneOf_iff hwords, passes_noneOf_iff hwords, hv']
        by_cases hmem : normal v ∈ words <;> simp [hmem, not_iff_not]
      rw [htag', Option.any_some, Option.any_some, htest]
      constructor
      · rintro himp _ _ ⟨⟩ ⟨⟩
        exact himp
      · intro hall
        exact hall v v' rfl rfl

/-- Signals are given in both spellings or in none, if their tag passes in both or in none. -/
theorem gives_eq (h : ctx'.Respells ctx)
    (htag : ∀ key test, s.tag? = some (key, test) →
      ctx'.tagPasses key test = ctx.tagPasses key test) : ctx'.gives s = ctx.gives s := by
  rw [gives, gives, h.flag_eq, h.present_eq, h.reaches_eq, hasEdge_congr h.edges,
    hasNeighbour_congr h.neighbours]
  cases hs : s.tag? with
  | none => rfl
  | some tag =>
      obtain ⟨key, test⟩ := tag
      simp only [Option.any_some, htag key test hs]

end Respells

theorem gives_eq_untagged_or (hs : s.exclusions = []) :
    ctx.gives s =
      (ctx.gives s.untagged || s.tag?.any fun (key, test) => ctx.tagPasses key test) := by
  simp only [gives, Signals.untagged, hs, flag_nil, Bool.not_false, Bool.true_and,
    Option.any_none, Bool.or_false]

end Context

namespace Safeguard

open Context

variable {s : Safeguard} {ctx ctx' : Context}

/-! ## Safeguards -/

/-- Backups alone are told by a tag that is anything but certain words. -/
theorem exists_words_of_tag? (hs : s ≠ .backup) {key : String} {test : TagTest}
    (htag : s.signals.tag? = some (key, test)) : ∃ words, test = .oneOf words := by
  cases s with
  | backup => exact absurd rfl hs
  | _ =>
      obtain ⟨-, rfl⟩ := Prod.mk.inj (Option.some.inj htag)
      exact ⟨_, rfl⟩

theorem holds_eq_of_respells (h : ctx'.Respells ctx) (hs : s ≠ .backup) :
    s.holds ctx' = s.holds ctx := by
  refine h.gives_eq fun key test htag => ?_
  obtain ⟨words, rfl⟩ := exists_words_of_tag? hs htag
  exact h.tagPasses_oneOf_eq key words

/-- The words that deny a backup. -/
def backupDenials : List String := ["", "none", "false", "disabled"]

theorem backup_holds_eq_iff (h : ctx'.Respells ctx) :
    backup.holds ctx' = backup.holds ctx ↔
      ctx.gives backup.signals.untagged = true ∨
        ∀ v v', ctx.tag? "backup" = some v → ctx'.tag? "backup" = some v' →
          normal v ∈ backupDenials → (strip v' = v' ↔ strip v = v) := by
  have hwords : ∀ w ∈ backupDenials, strip w = w := by decide
  have hother : ctx'.gives backup.signals.untagged = ctx.gives backup.signals.untagged :=
    h.gives_eq fun _ _ hnone => by cases hnone
  have htag : ∀ c : Context, backup.holds c = (c.gives backup.signals.untagged ||
      c.tagPasses "backup" (.noneOf backupDenials)) := fun c => gives_eq_untagged_or rfl
  rw [htag, htag, hother, ← h.tagPasses_noneOf_eq_iff hwords]
  cases ctx.gives backup.signals.untagged <;> simp

/-- Spelling decides none of the safeguards, nor which tags are missing, except that of the tag for
backups: where nothing else tells of one, a word that denies backups is taken for one if there are
blanks around it. -/
theorem holds_respelled_iff (h : ctx'.Respells ctx) :
    (∀ s : Safeguard, s ≠ .backup → s.holds ctx' = s.holds ctx) ∧
    (∀ tags, ctx'.carriesAll tags = ctx.carriesAll tags ∧
      ctx'.carriesAny tags = ctx.carriesAny tags ∧
      ctx'.missingTags tags = ctx.missingTags tags) ∧
    (backup.holds ctx' = backup.holds ctx ↔
      ctx.gives backup.signals.untagged = true ∨
        ∀ v v', ctx.tag? "backup" = some v → ctx'.tag? "backup" = some v' →
          normal v ∈ backupDenials → (strip v' = v' ↔ strip v = v)) := by
  refine ⟨fun s => holds_eq_of_respells h, fun tags => ?_, backup_holds_eq_iff h⟩
  simp only [carriesAll, carriesAny, missingTags, h.carries_eq, and_self]

/-- Two spellings of a resource; its tag for backups denies none. -/
theorem holds_of_other_spelling :
    let bucket := Resource.new "a" "s3_bucket" "aws"
    let plain := Context.alone { bucket with
      tags := [("backup", "daily"), ("encryption", "kms"), ("environment", ""), ("owner", "ops")]
      metadata := [("mfa", .text "on"), ("replicas", .text "2e0")] }
    let spelled := Context.alone { bucket with
      tags := [("backup", " Daily "), ("encryption", "KMS"), ("environment", "\t"),
        ("owner", " Ops")]
      metadata := [("mfa", .text " On"), ("replicas", .text " 2E0 ")] }
    spelled.Respells plain ∧ (∀ s : Safeguard, s.holds spelled = s.holds plain) ∧
      availability.holds plain = true ∧ backup.holds plain = true ∧
      spelled.missingTags requiredTags = plain.missingTags requiredTags := by
  intro bucket plain spelled
  have h : spelled.Respells plain := by
    refine ⟨?_, ?_, rfl, rfl⟩
    · refine .cons ⟨rfl, ?_⟩ (.cons ⟨rfl, ?_⟩ (.cons ⟨rfl, ?_⟩ (.cons ⟨rfl, ?_⟩ .nil)))
      all_goals exact respelling_iff.mpr (by decide)
    · refine .cons ⟨rfl, .text ?_⟩ (.cons ⟨rfl, .text ?_⟩ .nil)
      all_goals exact respelling_iff.mpr (by decide)
  obtain ⟨hothers, htags, hbackup⟩ := holds_respelled_iff h
  refine ⟨h, fun s => ?_, by decide +kernel, by decide +kernel, (htags requiredTags).2.2⟩
  by_cases hs : s = .backup
  · rw [hs, hbackup]
    refine .inr fun v v' hv _ hdenial => ?_
    obtain rfl := Option.some.inj hv
    exact absurd hdenial (by decide)
  · exact hothers s hs

/-- A blank behind the word, or in its place, makes a backup of what denies one. -/
theorem backup_holds_of_blank :
    let bucket := Resource.new "a" "s3_bucket" "aws"
    let denied (word : String) := Context.alone (bucket.withTag "backup" word)
    ((denied "none ").Respells (denied "none") ∧
      backup.holds (denied "none") = false ∧ backup.holds (denied "none ") = true) ∧
    ((denied " ").Respells (denied "") ∧
      backup.holds (denied "") = false ∧ backup.holds (denied " ") = true) := by
  intro bucket denied
  have h : ∀ v v', normal v' = normal v → (denied v').Respells (denied v) := fun v v' hv =>
    ⟨.cons ⟨rfl, respelling_iff.mpr hv⟩ .nil, .nil, rfl, rfl⟩
  exact ⟨⟨h _ _ (by decide), by decide +kernel, by decide +kernel⟩, h _ _ (by decide),
    by decide +kernel, by decide +kernel⟩

end Safeguard

end Compliance

end Guardrail
