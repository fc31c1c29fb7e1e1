import Guardrail.Proofs.Record.Lookup
import Guardrail.Proofs.Text.Search

/-!
# Paths as segments

Where names are plain, neither empty nor with a dot in them, a path has one reading: it is split at
its dots, and its segments are followed one by one.
-/

namespace Guardrail

namespace Json

/-- The segments of a path. -/
def segments (path : List Char) : List String :=
  (Text.splitWhere (· = '.') path).map String.ofList

/-- The value that is reached by going from child to child. -/
def follow : List String → Json → Option Json
  | [], x => some x
  | name :: names, x => (x.child? name).bind (follow names)

theorem forall_ne_dot {cs : List Char} (h : '.' ∉ cs) : ∀ c ∈ cs, decide (c = '.') = false := by
  intro c hc
  rw [decide_eq_false_iff_not]
  rintro rfl
  exact h hc

theorem segments_of_no_dot {path : List Char} (h : '.' ∉ path) :
    segments path = [String.ofList path] := by
  simp [segments, Text.splitWhere_of_forall_not (forall_ne_dot h)]

theorem segments_append {front : List Char} (h : '.' ∉ front) (rest : List Char) :
    segments (front ++ '.' :: rest) = String.ofList front :: segments rest := by
  simp [segments, Text.splitWhere_append (forall_ne_dot h)]

/-- A path without a dot, or the first segment of one and its rest. -/
theorem no_dot_or_exists_cut (path : List Char) :
    '.' ∉ path ∨ ∃ front rest, '.' ∉ front ∧ path = front ++ '.' :: rest := by
  induction path with
  | nil => simp
  | cons c cs ih =>
      by_cases hc : c = '.'
      · exact .inr ⟨[], cs, by simp [hc]⟩
      · rcases ih with h | ⟨front, rest, hf, rfl⟩
        · exact .inl (by simp [h, Ne.symm hc])
        · exact .inr ⟨c :: front, rest, by simp [hf, Ne.symm hc]⟩

/-- In a value with plain names, a cut behind the first segment is the only one that can lead
anywhere. -/
theorem findSome?_namedCuts {x : Json} (h : x.hasPlainNames = true) (top : Bool)
    {front rest : List Char} (hf : '.' ∉ front) (next : List Char → Json → Option Json) :
    ((namedCuts top (front ++ '.' :: rest)).findSome? fun (front, rest) =>
      (x.child? (String.ofList front)).bind fun y => next rest y) =
      (x.child? (String.ofList front)).bind fun y => next rest y := by
  refine findSome?_eq_of_forall_ne (a := (front, rest)) ?_ ?_
  · intro hn
    refine List.mem_filter.mpr ⟨mem_cuts.mpr rfl, ?_⟩
    have hne : front ≠ [] := by
      rintro rfl
      simp [child?_eq_none_of_plain h (.inl rfl)] at hn
    simp [hne]
  · rintro ⟨front', rest'⟩ hc hne
    have hp := mem_cuts.mp (List.mem_filter.mp hc).1
    by_cases hf' : '.' ∈ front'
    · have hdot : '.' ∈ (String.ofList front').toList := by simpa using hf'
      simp [child?_eq_none_of_plain h (.inr hdot)]
    · have hs := congrArg segments hp
      rw [segments_append hf, segments_append hf'] at hs
      obtain rfl := String.ofList_injective (List.cons.inj hs).1
      simp_all

/-- In a value with plain names, a lookup follows the segments of the path. -/
theorem find?_of_plain (levels : Nat) {x : Json} (h : x.hasPlainNames = true) (top : Bool)
    (path : List Char) :
    x.find? levels top path =
      if (segments path).length ≤ levels then x.follow (segments path) else none := by
  induction levels generalizing x top path with
  | zero =>
      rcases no_dot_or_exists_cut path with hp | ⟨front, rest, hf, rfl⟩
      · simp [find?, segments_of_no_dot hp]
      · simp [find?, segments_append hf]
  | succ levels ih =>
      have hempty : (if top then (x.child? "").bind fun y => find? levels true path y else none) =
          none := by
        simp [child?_eq_none_of_plain h (.inl rfl)]
      rw [find?, hempty, Option.or_none]
      rcases no_dot_or_exists_cut path with hp | ⟨front, rest, hf, rfl⟩
      · have hcuts : namedCuts top path = [] := by
          rw [namedCuts, List.filter_eq_nil_iff]
          intro cut hc
          exact absurd (mem_cuts.mp hc ▸ by simp) hp
        simp [hcuts, segments_of_no_dot hp, follow]
      · rw [child?_eq_none_of_plain h (.inr (by simp)), Option.none_or,
          findSome?_namedCuts h top hf fun rest y => find? levels false rest y, segments_append hf]
        cases hy : x.child? (String.ofList front) with
        | none => simp [follow, hy]
        | some y =>
            have hplain : y.hasPlainNames = true :=
              namesMeet_of_mem_children h (mem_children_of_child? hy)
            simp [follow, hy, ih hplain]

/-- Names without dots are the segments of the path that joins them. -/
theorem segments_intercalate {names : List String} (hne : names ≠ [])
    (h : ∀ name ∈ names, '.' ∉ name.toList) : segments (".".intercalate names).toList = names := by
  induction names with
  | nil => contradiction
  | cons s names ih =>
      have hs := h s List.mem_cons_self
      cases names with
      | nil => simp [segments_of_no_dot hs]
      | cons t names =>
          have hjoin : (".".intercalate (s :: t :: names)).toList =
              s.toList ++ '.' :: (".".intercalate (t :: names)).toList := by
            simp [String.intercalate_cons_cons]
          rw [hjoin, segments_append hs,
            ih (List.cons_ne_nil t names) fun name hname => h name (List.mem_cons_of_mem s hname),
            String.ofList_toList]

end Json

namespace FlatRecord

/-- In a record with plain names, the joined path of some names leads where the names do. -/
theorem get?_intercalate {record : Json} (ho : record.isOrdered = true)
    (hp : record.hasPlainNames = true) {levels : Nat} {names : List String} (hne : names ≠ [])
    (h : ∀ name ∈ names, '.' ∉ name.toList) (hlevels : names.length ≤ levels) :
    (ofJson levels record).get? (".".intercalate names) = record.follow names := by
  rw [get?_eq_find? ho, Json.find?_of_plain levels hp, Json.segments_intercalate hne h,
    if_pos hlevels]

/-- What the table of a record says about a path is what a lookup in the record finds; if all names
are plain, a path leads exactly to what is reached by following its segments, as many as the table
is deep. -/
theorem get?_ofJson_eq {record : Json} (h : record.isOrdered = true) (levels : Nat) :
    (∀ path, (ofJson levels record).get? path = record.find? levels true path.toList) ∧
      (record.hasPlainNames = true → ∀ path value,
        (ofJson levels record).get? path = some value ↔
          (Json.segments path.toList).length ≤ levels ∧
            record.follow (Json.segments path.toList) = some value) := by
  refine ⟨get?_eq_find? h levels, ?_⟩
  intro hp path value
  rw [get?_eq_find? h, Json.find?_of_plain levels hp, Option.ite_none_right_eq_some]

/-- The name of a member goes before a path through members, and an element of an array is reached
by its index. -/
theorem get?_ofJson_dotted :
    let dotted : Json := .object
      [("", .object [("a", .number (.int 1)), ("c", .number (.int 2))]),
        ("a", .object [("b", .number (.int 3)), ("b.c", .number (.int 4))]),
        ("a.b", .object [("c", .number (.int 5))])]
    let plain : Json := .object [("a", .array [.object [("b", .number (.int 6))]])]
    dotted.isOrdered = true ∧
      (ofJson 2 dotted).get? "a.b.c" = some (.number (.int 5)) ∧
      (ofJson 2 dotted).get? "c" = some (.number (.int 2)) ∧
      plain.isOrdered = true ∧ plain.hasPlainNames = true ∧
      (ofJson 3 plain).get? "a.0.b" = some (.number (.int 6)) :=
  ⟨by decide, ((get?_ofJson_eq (by decide) 2).1 _).trans rfl,
    ((get?_ofJson_eq (by decide) 2).1 _).trans rfl, by decide, by decide,
    ((get?_ofJson_eq (by decide) 3).2 (by decide) _ _).mpr ⟨by decide, rfl⟩⟩

end FlatRecord

end Guardrail
