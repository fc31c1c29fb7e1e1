import Guardrail.Proofs.Json.Order
import Guardrail.Proofs.Lists
import Guardrail.Record.Flat
import Guardrail.Text.Search

/-!
# Looking up dotted paths

What the table of a flattened record says about a path can be found in the record itself. The path
is the name of a member, or it is cut at a dot and its rest is looked up in the member that its
front names; the longest front that leads anywhere decides.
-/

namespace Guardrail

/-! ## Lookup in the record -/

namespace Json

/-- The ways to cut a path at one of its dots, the last dot first. -/
def cuts : List Char → List (List Char × List Char)
  | [] => []
  | c :: cs =>
    (cuts cs).map (fun (front, rest) => (c :: front, rest)) ++ if c = '.' then [([], cs)] else []

/-- The cuts whose front can be a name. Where nothing stands in front of a name, an empty one adds
no dot, so the front must not be empty there. -/
def namedCuts (top : Bool) (path : List Char) : List (List Char × List Char) :=
  (cuts path).filter fun cut => !(top && cut.1.isEmpty)

/-- The value that a path leads to, at most `levels` names deep. At the `top` nothing stands in
front of the names: there the member of an empty name is looked into with the whole path, after all
others. -/
def find? : Nat → Bool → List Char → Json → Option Json
  | 0, _, _, _ => none
  | levels + 1, top, path, x =>
    (x.child? (String.ofList path)).or <|
    ((namedCuts top path).findSome? fun (front, rest) =>
      (x.child? (String.ofList front)).bind fun y => find? levels false rest y).or <|
    if top then (x.child? "").bind fun y => find? levels true path y else none

/-! ## Cuts -/

theorem mem_cuts {path front rest : List Char} :
    (front, rest) ∈ cuts path ↔ path = front ++ '.' :: rest := by
  induction path generalizing front with
  | nil => simp [cuts]
  | cons c cs ih =>
      cases front with
      | nil => by_cases h : c = '.' <;> simp [cuts, h, eq_comm]
      | cons d front =>
          have hlast : (d :: front, rest) ∉ if c = '.' then [([], cs)] else [] := by
            split <;> simp
          rw [cuts, List.mem_append, or_iff_left hlast, List.cons_append, List.cons.injEq, ← ih]
          constructor
          · intro h
            obtain ⟨cut, hc, he⟩ := List.mem_map.mp h
            cases he
            exact ⟨rfl, hc⟩
          · rintro ⟨rfl, h⟩
            exact List.mem_map.mpr ⟨(front, rest), h, rfl⟩

/-- A later cut has a shorter front: with a dot behind it, it begins the earlier ones. -/
theorem pairwise_cuts (path : List Char) :
    (cuts path).Pairwise fun a b => b.1 ++ ['.'] <+: a.1 := by
  induction path with
  | nil => simp [cuts]
  | cons c cs ih =>
      refine List.pairwise_append.mpr ⟨?_, ?_, ?_⟩
      · rw [List.pairwise_map]
        exact ih.imp fun h => List.prefix_cons_inj c |>.mpr h
      · split <;> simp
      · intro a ha b hb
        obtain ⟨a, -, rfl⟩ := List.mem_map.mp ha
        split at hb
        · rename_i h
          simp only [List.mem_singleton] at hb
          subst hb h
          simp
        · simp at hb

/-! ## Children of an ordered value -/

/-- A name that is empty, or that begins another one in front of a dot. -/
def Leads (a b : String) : Prop :=
  a = "" ∨ a.toList ++ ['.'] <+: b.toList

theorem not_leads_of_lt {a b : String} (h : a < b) : ¬ Leads b a := by
  rintro (rfl | hp)
  · exact List.not_lt_nil _ (String.lt_iff.mp h)
  · have hprefix : b.toList <+: a.toList := (List.prefix_append _ _).trans hp
    exact List.not_lt.mpr hprefix.le (String.lt_iff.mp h)

theorem not_leads_digitText (i : Nat) {b : String} (a : String)
    (hb : b = Decimal.digitText i) (ha : '.' ∉ a.toList) : ¬ Leads b a := by
  rintro (h | hp)
  · exact Decimal.digitText_ne_empty i (hb.symm.trans h)
  · exact ha (hp.subset (by simp))

/-- No child of an ordered value leads to one in front of it. -/
theorem pairwise_children {x : Json} (h : x.isOrdered = true) :
    x.children.Pairwise fun m m' => m.1 ≠ m'.1 ∧ ¬ Leads m'.1 m.1 := by
  cases x with
  | object ms =>
      exact (isOrdered_object.mp h).1.imp fun hlt =>
        ⟨String.ne_of_lt hlt, not_leads_of_lt hlt⟩
  | array xs =>
      refine (List.pairwise_map.mp (pairwise_numbered 0 xs)).imp_of_mem ?_
      intro m m' hm hm' hne
      obtain ⟨i, -, hi, -⟩ := mem_numbered hm
      obtain ⟨j, -, hj, -⟩ := mem_numbered hm'
      exact ⟨hne, not_leads_digitText j m.1 hj (hi ▸ Decimal.dot_not_mem_digitText i)⟩
  | _ => simp [children]

/-- What a child has to say about a path. -/
def answer (levels : Nat) (top : Bool) (path : List Char) (name : String) (y : Json) :
    Option Json :=
  if name.toList = path then some y
  else if top = true ∧ name = "" then find? levels true path y
  else (Text.after? (name.toList ++ ['.']) path).bind fun rest => find? levels false rest y

/-- The names that can have something to say about a path, the one that decides first. -/
def candidates (top : Bool) (path : List Char) : List String :=
  [String.ofList path] ++ (namedCuts top path).map (fun cut => String.ofList cut.1) ++
    if top then [""] else []

theorem pairwise_candidates (top : Bool) (path : List Char) :
    (candidates top path).Pairwise fun a b => Leads b a := by
  have hcuts : ((namedCuts top path).map fun cut => String.ofList cut.1).Pairwise
      fun a b => Leads b a := by
    rw [List.pairwise_map]
    exact ((pairwise_cuts path).filter _).imp fun h => .inr (by simpa using h)
  have hpath : ∀ b ∈ (namedCuts top path).map fun cut => String.ofList cut.1,
      Leads b (String.ofList path) := by
    intro b hb
    obtain ⟨⟨front, rest⟩, hc, rfl⟩ := List.mem_map.mp hb
    have hp := mem_cuts.mp (List.mem_filter.mp hc).1
    exact .inr ⟨rest, by simp [hp]⟩
  refine List.pairwise_append.mpr ⟨List.pairwise_cons.mpr ⟨hpath, hcuts⟩, ?_, ?_⟩
  · split <;> simp
  · intro a _ b hb
    split at hb
    · exact .inl (List.mem_singleton.mp hb)
    · simp at hb

theorem answer_eq_none {levels : Nat} {top : Bool} {path : List Char} {name : String}
    (h : name ∉ candidates top path) (y : Json) : answer levels top path name y = none := by
  simp only [candidates, List.mem_append, not_or] at h
  obtain ⟨⟨hpath, hcuts⟩, htop⟩ := h
  have hne : name.toList ≠ path := by
    rintro rfl
    simp at hpath
  have he : ¬ (top = true ∧ name = "") := by
    rintro ⟨rfl, rfl⟩
    simp at htop
  rw [answer, if_neg hne, if_neg he, Option.bind_eq_none_iff]
  intro rest hr
  rw [Text.after?_eq_some_iff] at hr
  exact absurd (List.mem_map.mpr ⟨(name.toList, rest), List.mem_filter.mpr
    ⟨mem_cuts.mpr (by simp [hr]), by cases top <;> simp_all⟩, by simp⟩) hcuts

theorem answer_of_mem_namedCuts {levels : Nat} {top : Bool} {path front rest : List Char}
    (h : (front, rest) ∈ namedCuts top path) (y : Json) :
    answer levels top path (String.ofList front) y = find? levels false rest y := by
  obtain ⟨hc, hn⟩ := List.mem_filter.mp h
  obtain rfl := mem_cuts.mp hc
  have hne : (String.ofList front).toList ≠ front ++ '.' :: rest := by simp
  have he : ¬ (top = true ∧ String.ofList front = "") := by
    rintro ⟨rfl, hf⟩
    simp [String.ofList_eq_empty_iff.mp hf] at hn
  have hr : Text.after? ((String.ofList front).toList ++ ['.']) (front ++ '.' :: rest) =
      some rest := Text.after?_eq_some_iff.mpr (by simp)
  rw [answer, if_neg hne, if_neg he, hr]
  rfl

/-- The last child that has something to say about a path decides. -/
theorem findSome?_answer {x : Json} (h : x.isOrdered = true) (levels : Nat) (top : Bool)
    (path : List Char) :
    (x.children.reverse.findSome? fun m => answer levels top path m.1 m.2) =
      find? (levels + 1) top path x := by
  have hpath : ((x.child? (String.ofList path)).bind
      (answer levels top path (String.ofList path))) = x.child? (String.ofList path) := by
    cases x.child? (String.ofList path) <;> simp [answer]
  have hcuts : ((namedCuts top path).findSome? fun cut =>
      (x.child? (String.ofList cut.1)).bind (answer levels top path (String.ofList cut.1))) =
      (namedCuts top path).findSome? fun (front, rest) =>
        (x.child? (String.ofList front)).bind fun y => find? levels false rest y := by
    apply findSome?_congr
    rintro ⟨front, rest⟩ hc
    exact congrArg _ (funext (answer_of_mem_namedCuts hc))
  rw [findSome?_reverse_eq _ (pairwise_candidates top path) (pairwise_children h)
    fun m _ hm => answer_eq_none hm m.2]
  change ((candidates top path).findSome? fun k => (x.child? k).bind (answer levels top path k)) = _
  rw [candidates, find?, List.findSome?_append, List.findSome?_append, List.findSome?_singleton,
    List.findSome?_map, hpath, Option.or_assoc]
  cases hv : x.child? (String.ofList path) with
  | some v => simp
  | none =>
      have hlast : ((if top then [""] else []).findSome? fun k =>
          (x.child? k).bind (answer levels top path k)) =
          if top then (x.child? "").bind fun y => find? levels true path y else none := by
        cases top with
        | false => rfl
        | true =>
            cases hy : x.child? "" with
            | none => simp [hy]
            | some y =>
                have hne : path ≠ [] := by
                  rintro rfl
                  simp [hy] at hv
                simp [hy, answer, hne]
      rw [hlast, ← hcuts]
      rfl

end Json

/-! ## The table of a record -/

namespace FlatRecord

theorem belowItems_eq (levels : Nat) (base : String) (index : Nat) (xs : List Json) :
    belowItems levels base index xs = belowMembers levels base (Json.numbered index xs) := by
  induction xs generalizing index with
  | nil => simp [belowItems, belowMembers, Json.numbered]
  | cons x xs ih => simp [belowItems, belowMembers, Json.numbered_cons, ih]

theorem below_zero (base : String) (x : Json) : below 0 base x = [] := by
  cases x <;> simp [below]

theorem below_succ (levels : Nat) (base : String) (x : Json) :
    below (levels + 1) base x = belowMembers levels base x.children := by
  cases x <;> simp [below, belowItems_eq, Json.children, belowMembers]

/-- The latest entry of a path below a value. -/
def latest (levels : Nat) (base : String) (x : Json) (path : String) : Option Json :=
  (below levels base x).reverse.lookup path

theorem lookup_belowMembers (levels : Nat) (base path : String) (ms : List (String × Json)) :
    (belowMembers levels base ms).reverse.lookup path =
      ms.reverse.findSome? fun m =>
        if childPath base m.1 = path then some m.2
        else latest levels (childPath base m.1) m.2 path := by
  induction ms with
  | nil => rfl
  | cons m ms ih =>
      obtain ⟨k, x⟩ := m
      have hm : ([(childPath base k, x)] ++ (below levels (childPath base k) x).reverse).lookup
          path = if childPath base k = path then some x
            else latest levels (childPath base k) x path := by
        by_cases h : childPath base k = path
        · simp [h]
        · simp [List.lookup_cons, h, beq_eq_false_iff_ne.mpr (Ne.symm h), latest]
      rw [belowMembers, List.reverse_append, List.reverse_cons, List.append_assoc,
        List.lookup_append, ih, hm, List.reverse_cons, List.findSome?_append,
        List.findSome?_singleton]

theorem latest_succ (levels : Nat) (base : String) (x : Json) (path : String) :
    latest (levels + 1) base x path =
      x.children.reverse.findSome? fun m =>
        if childPath base m.1 = path then some m.2
        else latest levels (childPath base m.1) m.2 path := by
  rw [latest, below_succ, lookup_belowMembers]

@[simp] theorem childPath_empty (name : String) : childPath "" name = name := rfl

theorem childPath_ne_empty {base : String} (hb : base ≠ "") (name : String) :
    childPath base name ≠ "" := by
  simp [childPath, hb]

theorem childPath_eq_iff {base : String} (hb : base ≠ "") (name path : String) :
    childPath base name = path ↔
      Text.after? (base.toList ++ ['.']) path.toList = some name.toList := by
  rw [Text.after?_eq_some_iff, childPath, if_neg hb, ← String.toList_inj]
  simp [eq_comm]

theorem after?_childPath {base : String} (hb : base ≠ "") (name : String) (path : List Char) :
    Text.after? ((childPath base name).toList ++ ['.']) path =
      (Text.after? (base.toList ++ ['.']) path).bind (Text.after? (name.toList ++ ['.'])) := by
  rw [← Text.after?_append]
  simp [childPath, hb]

/-- The latest entry of a path is what a lookup in the value finds. Behind a base, it is a lookup of
what follows the base and its dot. -/
theorem latest_eq_find? (levels : Nat) {x : Json} (h : x.isOrdered = true) (base path : String) :
    latest levels base x path =
      if base = "" then x.find? levels true path.toList
      else (Text.after? (base.toList ++ ['.']) path.toList).bind fun rest =>
        x.find? levels false rest := by
  induction levels generalizing x base with
  | zero => simp [latest, below_zero, Json.find?]
  | succ levels ih =>
      have hc : ∀ m ∈ x.children.reverse, m.2.isOrdered = true := fun m hm =>
        Json.namesMeet_of_mem_children h (List.mem_reverse.mp hm)
      rw [latest_succ]
      by_cases hb : base = ""
      · subst hb
        rw [if_pos rfl, ← Json.findSome?_answer h]
        apply findSome?_congr
        intro m hm
        simp [ih (hc m hm), Json.answer, String.toList_inj]
      · rw [if_neg hb]
        have hm : ∀ m ∈ x.children.reverse,
            (if childPath base m.1 = path then some m.2
              else latest levels (childPath base m.1) m.2 path) =
            (Text.after? (base.toList ++ ['.']) path.toList).bind fun rest =>
              Json.answer levels false rest m.1 m.2 := by
          intro m hm
          rw [ih (hc m hm), if_neg (childPath_ne_empty hb m.1), after?_childPath hb]
          simp only [childPath_eq_iff hb]
          cases Text.after? (base.toList ++ ['.']) path.toList with
          | none => simp
          | some rest => simp [Json.answer, @eq_comm _ rest]
        rw [findSome?_congr hm]
        cases Text.after? (base.toList ++ ['.']) path.toList with
        | none => exact List.findSome?_eq_none_iff.mpr fun _ _ => rfl
        | some rest => exact Json.findSome?_answer h levels false rest

/-- What a record's table says about a path is what a lookup in the record finds. -/
theorem get?_eq_find? {record : Json} (h : record.isOrdered = true) (levels : Nat)
    (path : String) :
    (ofJson levels record).get? path = record.find? levels true path.toList :=
  latest_eq_find? levels h "" path

end FlatRecord

end Guardrail
