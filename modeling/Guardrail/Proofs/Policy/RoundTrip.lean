import Guardrail.Proofs.Policy.Spelling

/-!
# Round trips

Conditions, policies and rules from policy texts that are given out can be read again, and so can
every other spelling of them.
-/

namespace Guardrail

open Decimal

/-- What can be written down survives being given out and read. -/
structure RoundTrips {α : Type} (write : α → Json) (read : Document → Option α)
    (IsProper : α → Prop) (IsWrittenAs : α → Json → Prop) (blur : α → α) : Prop where
  /-- What is given out is read as it was. -/
  exact : ∀ a, IsProper a → read (write a).toDocument = some a
  /-- What is given out is one of the spellings. -/
  written : ∀ a, IsProper a → (write a).IsProper ∧ IsWrittenAs a (write a)
  /-- Any spelling is read as what it spells, up to what is blurred. -/
  spelled : ∀ a x, x.IsProper → IsWrittenAs a x →
    ∃ b, read x.toDocument = some b ∧ blur b = blur a

variable {α : Type} {write : α → Json} {read : Document → Option α} {IsProper : α → Prop}
  {IsWrittenAs : (Number → Float → Prop) → α → Json → Prop} {map : (Float → Float) → α → α}

/-- If a reader follows the spellings of the bounds, only an integer that spells a zero makes a
difference: it has no sign. -/
theorem roundTrips_of_spellings (hmap : ∀ a, map (fun x => x) a = a)
    (hproper : ∀ {a}, IsProper a → (write a).IsProper)
    (hwritten : ∀ {writes : Number → Float → Prop}, (∀ x, writes (.fraction x) x) →
      ∀ {a}, IsProper a → IsWrittenAs writes a (write a))
    (hread : ∀ {writes : Number → Float → Prop} {g : Float → Float},
      (∀ n x, writes n x → g n.toFloat = g x) → ∀ {a} {x : Json}, x.IsProper →
        IsWrittenAs writes a x → ∃ b, read x.toDocument = some b ∧ map g b = map g a) :
    RoundTrips write read IsProper (IsWrittenAs Number.Denotes) (map unsignZero) where
  exact := by
    intro a ha
    -- the bounds of what is given out stand there as they are
    let writes : Number → Float → Prop := fun n x => n = .fraction x
    have hself : ∀ x, writes (.fraction x) x := fun _ => rfl
    have hsame : ∀ n x, writes n x → n.toFloat = x := by
      rintro _ x rfl
      rfl
    obtain ⟨b, hb, heq⟩ := hread (g := fun x => x) hsame (hproper ha) (hwritten hself ha)
    rw [hmap, hmap] at heq
    rw [hb, heq]
  written := fun a ha => ⟨hproper ha, hwritten (fun _ => rfl) ha⟩
  spelled := fun _ _ hx h => hread (fun _ _ hn => hn.unsignZero_eq) hx h

/-- Conditions, policies and rules from policy texts survive being given out and read. -/
theorem roundTrips_toJson (inner : Bool) :
    RoundTrips Condition.toJson (Condition.ofDocument? inner) Condition.IsProper
        (Condition.IsWrittenAs Number.Denotes) (Condition.mapBounds unsignZero) ∧
      RoundTrips Policy.toJson Policy.ofDocument? Policy.IsProper
        (Policy.IsWrittenAs Number.Denotes) (Policy.mapBounds unsignZero) ∧
      RoundTrips Rego.LocalRule.toJson (Rego.LocalRule.ofDocument? inner) Rego.LocalRule.IsProper
        (Rego.LocalRule.IsWrittenAs Number.Denotes) (Rego.LocalRule.mapBounds unsignZero) := by
  refine ⟨?_, ?_, ?_⟩
  · exact roundTrips_of_spellings Condition.mapBounds_self Condition.isProper_toJson
      Condition.isWrittenAs_toJson
      fun hwrites _ _ hx h => Condition.exists_ofDocument?_of_isWrittenAs hwrites hx h inner
  · exact roundTrips_of_spellings Policy.mapBounds_self Policy.isProper_toJson
      Policy.isWrittenAs_toJson Policy.exists_ofDocument?_of_isWrittenAs
  · exact roundTrips_of_spellings Rego.LocalRule.mapBounds_self Rego.LocalRule.isProper_toJson
      Rego.LocalRule.isWrittenAs_toJson
      fun hwrites _ _ hx h => Rego.LocalRule.exists_ofDocument?_of_isWrittenAs hwrites hx h inner

/-- A policy without its defaults, in which a condition has further members, a symbol, an integer
and a `null`. -/
theorem read_policy_of_spelling :
    let r := Rule.new "r"
      (.all [.compares .above "delta" 600, .size "tags" .atLeast 2, .not (.custom none)]) .warn "ask"
    let p := Policy.new "p" "Owned" [r]
    let costs := Json.object [("field", .text "delta"), ("note", .array [.null]),
      ("type", .text "field_gt"), ("value", .ofInt 600)]
    let counts := Json.object [("field", .text "tags"), ("op", .text ">="),
      ("type", .text "field_size"), ("value", .ofNat 2)]
    let elsewhere := Json.object [("name", .null), ("type", .text "custom")]
    let never := Json.object [("condition", elsewhere), ("type", .text "not")]
    let condition := Json.object [("comment", .text "nested"),
      ("conditions", .array [costs, counts, never]), ("type", .text "and")]
    let rule := Json.object [("action", .text "warn"), ("condition", condition), ("id", .text "r"),
      ("message", .text "ask")]
    let spelling := Json.object [("id", .text "p"), ("name", .text "Owned"),
      ("rules", .array [rule])]
    Policy.ofDocument? p.toJson.toDocument = some p ∧
      ∃ b, Policy.ofDocument? spelling.toDocument = some b ∧
        b.mapBounds unsignZero = p.mapBounds unsignZero := by
  intro r p costs counts elsewhere never condition rule spelling
  have hproper : p.IsProper := by
    intro r' hr
    obtain rfl := List.mem_singleton.mp hr
    have hbound : (600 : Float).isFinite = true := by decide
    exact ⟨hbound, trivial, trivial, trivial⟩
  have hspelling : spelling.IsProper := ⟨by decide, by decide⟩
  have hwhole : (Binary.ofFloat? 600).bind Binary.whole? = some 600 := by decide
  have hcosts : (Condition.compares .above "delta" 600).IsWrittenAs Number.Denotes costs :=
    ⟨.int 600, hwhole, rfl, by simp [costs, Json.member?, lookup_cons_eq, Json.ofInt]⟩
  have hcounts : (Condition.size "tags" .atLeast 2).IsWrittenAs Number.Denotes counts :=
    ⟨">=", .inr rfl, rfl, by simp [counts, Json.member?, lookup_cons_eq]⟩
  have helsewhere : (Condition.custom none).IsWrittenAs Number.Denotes elsewhere :=
    ⟨⟨rfl, by simp⟩, .inr rfl⟩
  have hnever : (Condition.not (.custom none)).IsWrittenAs Number.Denotes never :=
    ⟨elsewhere, helsewhere, rfl, by simp [never, Json.member?, lookup_cons_eq]⟩
  have hrule : r.IsWrittenAs Number.Denotes rule :=
    { id := rfl
      description := .inr ⟨rfl, rfl⟩
      condition := ⟨condition, rfl, [costs, counts, never], ⟨hcosts, hcounts, hnever, trivial⟩,
        rfl, by simp [condition, Json.member?, lookup_cons_eq]⟩
      severity := .inr ⟨rfl, rfl⟩
      action := rfl
      message := rfl }
  have hwritten : p.IsWrittenAs Number.Denotes spelling :=
    { id := rfl
      name := rfl
      description := .inr ⟨rfl, rfl⟩
      enabled := .inr ⟨rfl, rfl⟩
      rules := ⟨[rule], rfl, .cons hrule .nil⟩ }
  obtain ⟨-, ⟨hexact, -, hspelled⟩, -⟩ := roundTrips_toJson false
  exact ⟨hexact p hproper, hspelled p spelling hspelling hwritten⟩

end Guardrail
