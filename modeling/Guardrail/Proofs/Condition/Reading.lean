import Guardrail.Condition.Document
import Guardrail.Proofs.Document.Objects
import Guardrail.Proofs.Lists

/-!
# Reading conditions

What a condition is read from: an object that tells its kind, and the members that the kind asks for.
-/

namespace Guardrail

namespace Condition

open Document

variable {inner : Bool} {d body : Document} {kind : String}

theorem ofDocument?_several {make : List Condition → Condition} {items : List Document}
    (hmake : kind = "and" ∧ make = .all ∨ kind = "or" ∧ make = .any)
    (h : splitKind? (kind? inner) d = some (kind, body))
    (hitems : field? body "conditions" = some (.list items)) :
    ofDocument? inner d = (items.mapM (ofDocument? true)).map make := by
  rw [ofDocument?]
  split
  · rename_i hnone
    cases h.symm.trans hnone
  · rename_i hsome
    cases h.symm.trans hsome
    rcases hmake with ⟨rfl, rfl⟩ | ⟨rfl, rfl⟩
    · rw [if_pos rfl]
      split
      · rename_i items' hitems'
        cases hitems.symm.trans hitems'
        exact congrArg (Option.map all) (mapM_attach _ items)
      · rename_i hother
        exact absurd hitems (hother items)
    · rw [if_neg (by decide), if_pos rfl]
      split
      · rename_i items' hitems'
        cases hitems.symm.trans hitems'
        exact congrArg (Option.map any) (mapM_attach _ items)
      · rename_i hother
        exact absurd hitems (hother items)

theorem ofDocument?_not {x : Document} (h : splitKind? (kind? inner) d = some ("not", body))
    (hx : field? body "condition" = some x) :
    ofDocument? inner d = (ofDocument? true x).map .not := by
  rw [ofDocument?]
  split
  · rename_i hnone
    cases h.symm.trans hnone
  · rename_i hsome
    cases h.symm.trans hsome
    rw [if_neg (by decide), if_neg (by decide), if_pos rfl]
    split
    · rename_i x' hx'
      cases hx.symm.trans hx'
      rfl
    · rename_i hnone
      cases hx.symm.trans hnone

theorem ofDocument?_leaf (h : splitKind? (kind? inner) d = some (kind, body))
    (hkind : kind ∉ ["and", "or", "not"]) : ofDocument? inner d = leaf? kind body := by
  simp only [List.mem_cons, List.not_mem_nil, or_false, not_or] at hkind
  rw [ofDocument?]
  split
  · rename_i hnone
    cases h.symm.trans hnone
  · rename_i hsome
    cases h.symm.trans hsome
    rw [if_neg hkind.1, if_neg hkind.2.1, if_neg hkind.2.2]

/-! ## Objects -/

variable {x y : Json} {field name : String}

theorem onField?_of_isRestOf {α : Type} {read : Document → Option α} {make : String → α → Condition}
    {a : α} (h : body.IsRestOf x) (hname : name ≠ "type")
    (hfield : x.member? "field" = some (.text field)) (hy : x.member? name = some y)
    (ha : read y.toDocument = some a) : onField? body name read make = some (make field a) := by
  obtain ⟨f, hf, hshows⟩ := h ["field", name] (by simpa using hname.symm)
  have hfield := hshows.required? (by simp) hfield text?
  have hy := hshows.required? (by simp) hy read
  simp [onField?, hf, hfield, hy, ha, Json.toDocument, text?]

theorem onText?_of_isRestOf {make : String → Condition} {text : String} (h : body.IsRestOf x)
    (hname : name ≠ "type") (hy : x.member? name = some (.text text)) :
    onText? body name make = some (make text) := by
  obtain ⟨f, hf, hshows⟩ := h [name] (by simpa using hname.symm)
  have hy := hshows.required? (by simp) hy text?
  simp [onText?, hf, hy, Json.toDocument, text?]

theorem field?_of_isRestOf (h : body.IsRestOf x) (hname : name ≠ "type")
    (hy : x.member? name = some y) : field? body name = some y.toDocument := by
  obtain ⟨f, hf, hshows⟩ := h [name] (by simpa using hname.symm)
  rw [field?, hf, Option.bind_some, hshows.lookup name (by simp), hy, Option.map_some]

end Condition

end Guardrail
