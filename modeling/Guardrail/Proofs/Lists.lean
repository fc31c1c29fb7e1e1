import Mathlib.Data.List.Nodup
import Mathlib.Data.List.Perm.Basic
import Mathlib.Order.Lattice

/-!
# Lists

Lists without their repetitions, partial maps on lists, and tables. What is sorted by a key stays in
its order where the keys agree, and what is left of a list when elements are taken away is sorted as
it was among them.
-/

namespace Guardrail

/-! ## Repetitions -/

section

variable {α β : Type}

theorem nodup_eraseDups [BEq α] [LawfulBEq α] :
    ∀ xs : List α, xs.eraseDups.Nodup
  | [] => by simp
  | x :: xs => by
      rw [List.eraseDups_cons, List.nodup_cons]
      refine ⟨fun hx => ?_, nodup_eraseDups _⟩
      simpa using (List.mem_filter.mp (List.mem_eraseDups.mp hx)).2
termination_by xs => xs.length
decreasing_by exact Nat.lt_succ_of_le (List.length_filter_le _ _)

theorem perm_eraseDups [BEq α] [LawfulBEq α] {xs ys : List α} (h : xs.Perm ys) :
    xs.eraseDups.Perm ys.eraseDups := by
  rw [List.perm_ext_iff_of_nodup (nodup_eraseDups xs) (nodup_eraseDups ys)]
  intro a
  rw [List.mem_eraseDups, List.mem_eraseDups, h.mem_iff]

/-- The first place at which a list leads to a value tells the order of the values in it. -/
theorem pairwise_findIdx_eraseDups [DecidableEq β] (f : α → Option β) (xs : List α) :
    (xs.filterMap f).eraseDups.Pairwise fun a b =>
      xs.findIdx (fun x => decide (f x = some a)) < xs.findIdx fun x => decide (f x = some b) := by
  -- what the head leads to is taken out of the rest, so `f` is another one there
  induction xs generalizing f with
  | nil => simp
  | cons x xs ih =>
      cases hx : f x with
      | none => simpa [List.filterMap_cons_none hx, List.findIdx_cons, hx] using ih f
      | some b =>
          let others (y : α) : Option β := (f y).filter fun c => !c == b
          have hfirst : (x :: xs).findIdx (fun y => decide (f y = some b)) = 0 := by
            simp [List.findIdx_cons, hx]
          have hlater : ∀ c, c ≠ b → (x :: xs).findIdx (fun y => decide (f y = some c)) =
              xs.findIdx (fun y => decide (others y = some c)) + 1 := by
            intro c hc
            simp [List.findIdx_cons, hx, others, Option.filter_eq_some_iff, hc, Ne.symm hc]
          have hne : ∀ c ∈ (xs.filterMap others).eraseDups, c ≠ b := by
            intro c hc
            obtain ⟨y, -, hy⟩ := List.mem_filterMap.mp (List.mem_eraseDups.mp hc)
            simpa using (Option.filter_eq_some_iff.mp hy).2
          rw [List.filterMap_cons_some hx, List.eraseDups_cons, List.filter_filterMap]
          refine List.pairwise_cons.mpr ⟨fun c hc => ?_, (ih others).imp_of_mem ?_⟩
          · rw [hfirst, hlater c (hne c hc)]
            exact Nat.succ_pos _
          · intro c d hc hd hlt
            rw [hlater c (hne c hc), hlater d (hne d hd)]
            exact Nat.succ_lt_succ hlt

end

/-! ## Partial maps -/

section

variable {α β : Type} {f g : α → Option β}

theorem length_filterMap_le_of_extends (hle : ∀ x y, f x = some y → g x = some y) (xs : List α) :
    (xs.filterMap f).length ≤ (xs.filterMap g).length := by
  rw [List.length_filterMap_eq_countP, List.length_filterMap_eq_countP]
  apply List.countP_mono_left
  intro x _ hx
  obtain ⟨y, hy⟩ := Option.isSome_iff_exists.mp hx
  simp [hle x y hy]

/-- A map that is defined more often gives the same list exactly if it is not on this one. -/
theorem filterMap_eq_filterMap_iff (hle : ∀ x y, f x = some y → g x = some y) {xs : List α} :
    xs.filterMap g = xs.filterMap f ↔ ∀ x ∈ xs, f x = none → g x = none := by
  constructor
  · intro h
    induction xs with
    | nil => simp
    | cons x xs ih =>
        cases hf : f x with
        | some y =>
            rw [List.filterMap_cons_some hf, List.filterMap_cons_some (hle x y hf)] at h
            simpa [hf] using ih (List.cons.inj h).2
        | none =>
            cases hg : g x with
            | some y =>
                rw [List.filterMap_cons_none hf, List.filterMap_cons_some hg] at h
                have hlonger := congrArg List.length h
                have hle := length_filterMap_le_of_extends hle xs
                simp only [List.length_cons] at hlonger
                omega
            | none =>
                rw [List.filterMap_cons_none hf, List.filterMap_cons_none hg] at h
                simpa [hg] using ih h
  · intro h
    apply List.filterMap_congr
    intro x hx
    cases hf : f x with
    | none => exact h x hx hf
    | some y => exact hle x y hf

theorem filterMap_if_eq_map_filter (p : α → Prop) [DecidablePred p] (f : α → β)
    (xs : List α) : xs.filterMap (fun x => if p x then some (f x) else none) =
      (xs.filter fun x => p x).map f := by
  rw [← List.filterMap_eq_filter, List.map_filterMap]
  refine List.filterMap_congr fun x _ => ?_
  by_cases h : p x
  · simp [Option.guard, h]
  · simp [Option.guard, h]

theorem findSome?_eq_of_forall_ne {xs : List α} {a : α}
    (ha : f a ≠ none → a ∈ xs) (h : ∀ x ∈ xs, x ≠ a → f x = none) : xs.findSome? f = f a := by
  cases hs : xs.findSome? f with
  | none =>
      rw [List.findSome?_eq_none_iff] at hs
      exact Classical.byContradiction fun hn => hn (hs a (ha (Ne.symm hn))).symm
  | some v =>
      obtain ⟨x, hx, hv⟩ := List.exists_of_findSome?_eq_some hs
      have he : x = a := Classical.byContradiction fun hne => by simp [h x hx hne] at hv
      rw [← he, hv]

theorem findSome?_congr {xs : List α} (h : ∀ x ∈ xs, f x = g x) :
    xs.findSome? f = xs.findSome? g := by
  induction xs with
  | nil => rfl
  | cons x xs ih =>
      rw [List.findSome?_cons, List.findSome?_cons, h x List.mem_cons_self,
        ih fun y hy => h y (List.mem_cons_of_mem _ hy)]

theorem mapM_attach (read : α → Option β) (xs : List α) :
    (xs.attach.mapM fun x => read x.1) = xs.mapM read := by
  rw [List.mapM_subtype fun _ _ => rfl, List.unattach_attach]

end

/-! ## Tables -/

section

variable {κ α β : Type} [DecidableEq κ] {R : κ → κ → Prop}

theorem lookup_cons_eq (k k' : κ) (x : α) (ms : List (κ × α)) :
    ((k', x) :: ms).lookup k = if k = k' then some x else ms.lookup k := by
  rw [List.lookup_cons]
  by_cases he : k = k'
  · simp [he]
  · rw [beq_eq_false_iff_ne.mpr he, if_neg he]

theorem lookup_cons_of_ne {k k' : κ} (h : k ≠ k') (x : α)
    (ms : List (κ × α)) : ((k', x) :: ms).lookup k = ms.lookup k := by
  rw [lookup_cons_eq, if_neg h]

theorem lookup_eq_none_of_notMem {k : κ} {ms : List (κ × α)}
    (h : k ∉ ms.map Prod.fst) : ms.lookup k = none := by
  rw [List.lookup_eq_none_iff]
  intro m hm
  have hne : k ≠ m.1 := by
    rintro rfl
    exact h (List.mem_map_of_mem hm)
  simpa using hne

/-- Where keys do not repeat, an entry can be looked up before what is kept of it is worked out. -/
theorem lookup_filterMap {ms : List (κ × α)} (h : (ms.map Prod.fst).Nodup)
    (f : α → Option β) (name : κ) :
    (ms.filterMap fun m => (f m.2).map (m.1, ·)).lookup name = (ms.lookup name).bind f := by
  induction ms with
  | nil => rfl
  | cons m ms ih =>
      obtain ⟨k, y⟩ := m
      obtain ⟨hk, hms⟩ := List.nodup_cons.mp h
      rw [lookup_cons_eq]
      cases hy : f y with
      | none =>
          rw [List.filterMap_cons_none (by simp [hy]), ih hms]
          by_cases he : name = k
          · subst he
            rw [if_pos rfl, lookup_eq_none_of_notMem hk, Option.bind_some, hy]
            rfl
          · rw [if_neg he]
      | some z =>
          rw [List.filterMap_cons_some (b := (k, z)) (by simp [hy]), lookup_cons_eq, ih hms]
          by_cases he : name = k
          · rw [if_pos he, if_pos he, Option.bind_some, hy]
          · rw [if_neg he, if_neg he]

theorem findSome?_lookup_cons (g : κ → α → Option β) {ks : List κ}
    (hks : ks.Pairwise fun k k' => R k' k) {m : κ × α} {ms : List (κ × α)}
    (hms : ∀ m' ∈ ms, m.1 ≠ m'.1 ∧ ¬ R m'.1 m.1) (hg : m.1 ∉ ks → g m.1 m.2 = none) :
    (ks.findSome? fun k => ((m :: ms).lookup k).bind (g k)) =
      (ks.findSome? fun k => (ms.lookup k).bind (g k)).or (g m.1 m.2) := by
  have hself : ms.lookup m.1 = none :=
    List.lookup_eq_none_iff.mpr fun m' hm' => by simpa using (hms m' hm').1
  have hcons (k : κ) : (m :: ms).lookup k = if k = m.1 then some m.2 else ms.lookup k :=
    lookup_cons_eq k m.1 m.2 ms
  induction ks with
  | nil => simpa using (hg (by simp)).symm
  | cons k ks ih =>
      obtain ⟨hk, hks⟩ := List.pairwise_cons.mp hks
      by_cases h : k = m.1
      · subst h
        -- the keys behind `k` name nothing in `ms`, which stands behind `m`
        have hrest : ∀ k' ∈ ks, ms.lookup k' = none := fun k' hk' =>
          List.lookup_eq_none_iff.mpr fun m' hm' => by
            simp only [bne_iff_ne]
            rintro rfl
            exact (hms m' hm').2 (hk _ hk')
        have hnone : (ks.findSome? fun k' => (ms.lookup k').bind (g k')) = none :=
          List.findSome?_eq_none_iff.mpr fun k' hk' => by simp [hrest k' hk']
        cases hv : g m.1 m.2 with
        | some v => simp [hcons, hself, hnone, hv]
        | none =>
            have : (ks.findSome? fun k' => ((m :: ms).lookup k').bind (g k')) = none :=
              List.findSome?_eq_none_iff.mpr fun k' hk' => by
                by_cases he : k' = m.1
                · simp [hcons, he, hv]
                · simp [hcons, he, hrest k' hk']
            simp [hself, hcons m.1, hnone, hv, this]
      · have ih := ih hks fun hn => hg (by simp [hn, Ne.symm h])
        rw [List.findSome?_cons, List.findSome?_cons, hcons, if_neg h, ih]
        split <;> simp

/-- If each key of `ks` is in `R` to all keys in front of it, and no entry of `ms` is in `R` to one in
front of it, then the last entry of `ms` that answers is the first key of `ks` that does. -/
theorem findSome?_reverse_eq (g : κ → α → Option β) {ks : List κ} {ms : List (κ × α)}
    (hks : ks.Pairwise fun k k' => R k' k)
    (hms : ms.Pairwise fun m m' => m.1 ≠ m'.1 ∧ ¬ R m'.1 m.1)
    (hg : ∀ m ∈ ms, m.1 ∉ ks → g m.1 m.2 = none) :
    (ms.reverse.findSome? fun m => g m.1 m.2) =
      ks.findSome? fun k => (ms.lookup k).bind (g k) := by
  induction ms with
  | nil => exact (List.findSome?_eq_none_iff.mpr fun _ _ => rfl).symm
  | cons m ms ih =>
      obtain ⟨hm, hms⟩ := List.pairwise_cons.mp hms
      rw [findSome?_lookup_cons g hks hm (hg m List.mem_cons_self), List.reverse_cons,
        List.findSome?_append, ih hms fun m' hm' => hg m' (List.mem_cons_of_mem _ hm')]
      simp

end

/-! ## Sorting by a key -/

section

variable {α β : Type} [LinearOrder β] {le : α → α → Bool} {key : α → β}

theorem trans_of_key (h : ∀ a b, le a b = true ↔ key a ≤ key b) (a b c : α)
    (hab : le a b = true) (hbc : le b c = true) : le a c = true :=
  (h a c).mpr (le_trans ((h a b).mp hab) ((h b c).mp hbc))

theorem total_of_key (h : ∀ a b, le a b = true ↔ key a ≤ key b) (a b : α) :
    (le a b || le b a) = true := by
  rw [Bool.or_eq_true, h, h]
  exact le_total (key a) (key b)

theorem pairwise_mergeSort_key (h : ∀ a b, le a b = true ↔ key a ≤ key b) (xs : List α) :
    (xs.mergeSort le).Pairwise fun a b => key a ≤ key b :=
  (List.pairwise_mergeSort (trans_of_key h) (total_of_key h) xs).imp fun hab => (h _ _).mp hab

/-- The head of a list is sorted in front of the elements that it may precede. -/
theorem mergeSort_cons_eq (h : ∀ a b, le a b = true ↔ key a ≤ key b) (a : α) (xs : List α) :
    (a :: xs).mergeSort le =
      (xs.mergeSort le).filter (fun b => !le a b) ++ a :: (xs.mergeSort le).filter (le a) := by
  obtain ⟨front, back, hcons, hxs, hfront⟩ :=
    List.mergeSort_cons (trans_of_key h) (total_of_key h) a xs
  have hback : ∀ b ∈ back, le a b = true := by
    have hsorted := List.pairwise_mergeSort (trans_of_key h) (total_of_key h) (a :: xs)
    rw [hcons, List.pairwise_append, List.pairwise_cons] at hsorted
    exact hsorted.2.1.1
  have hbefore : (front ++ back).filter (fun b => !le a b) = front := by
    rw [List.filter_append, List.filter_eq_self.mpr hfront,
      List.filter_eq_nil_iff.mpr fun b hb => by simp [hback b hb], List.append_nil]
  have hbehind : (front ++ back).filter (le a) = back := by
    rw [List.filter_append, List.filter_eq_self.mpr hback,
      List.filter_eq_nil_iff.mpr fun b hb => by simpa using hfront b hb, List.nil_append]
  rw [hcons, hxs, hbefore, hbehind]

/-- Sorting the elements of a kind is picking them from what is sorted. -/
theorem filter_mergeSort (h : ∀ a b, le a b = true ↔ key a ≤ key b) (p : α → Bool) (xs : List α) :
    (xs.mergeSort le).filter p = (xs.filter p).mergeSort le := by
  induction xs with
  | nil => simp
  | cons a xs ih =>
      by_cases ha : p a = true
      · have hcomm : ∀ q : α → Bool, ((xs.mergeSort le).filter q).filter p =
            ((xs.filter p).mergeSort le).filter q := by
          intro q
          rw [← ih, List.filter_comm]
        rw [List.filter_cons_of_pos ha, mergeSort_cons_eq h, mergeSort_cons_eq h,
          List.filter_append, List.filter_cons_of_pos ha, hcomm, hcomm]
      · obtain ⟨front, back, hcons, hxs, -⟩ :=
          List.mergeSort_cons (trans_of_key h) (total_of_key h) a xs
        rw [List.filter_cons_of_neg ha, ← ih, hcons, hxs, List.filter_append, List.filter_append,
          List.filter_cons_of_neg ha]

/-- The elements of one key keep their order. -/
theorem filter_mergeSort_key (h : ∀ a b, le a b = true ↔ key a ≤ key b) (k : β) (xs : List α) :
    (xs.mergeSort le).filter (fun a => decide (key a = k)) =
      xs.filter fun a => decide (key a = k) := by
  rw [filter_mergeSort h]
  refine List.mergeSort_of_pairwise (List.pairwise_of_forall_mem_list fun a ha b hb => ?_)
  have hka : key a = k := of_decide_eq_true (List.mem_filter.mp ha).2
  have hkb : key b = k := of_decide_eq_true (List.mem_filter.mp hb).2
  exact (h a b).mpr (le_of_eq (hka.trans hkb.symm))

/-- What is left of a list when elements are taken away is sorted in the same order. -/
theorem mergeSort_sublist_mergeSort (h : ∀ a b, le a b = true ↔ key a ≤ key b) {xs ys : List α}
    (hsub : xs.Sublist ys) : (xs.mergeSort le).Sublist (ys.mergeSort le) := by
  induction hsub with
  | slnil => exact List.Sublist.refl _
  | @cons xs ys a _ ih =>
      obtain ⟨front, back, hcons, hys, -⟩ :=
        List.mergeSort_cons (trans_of_key h) (total_of_key h) a ys
      rw [hys] at ih
      rw [hcons]
      exact ih.trans ((List.sublist_cons_self a back).append_left front)
  | cons_cons a _ ih =>
      rw [mergeSort_cons_eq h, mergeSort_cons_eq h]
      exact (ih.filter _).append ((ih.filter _).cons_cons a)

theorem mergeSort_eq_of_perm (h : ∀ a b, le a b = true ↔ key a ≤ key b) {xs ys : List α}
    (hp : xs.Perm ys) (hkey : ∀ a ∈ xs, ∀ b ∈ xs, key a = key b → a = b) :
    xs.mergeSort le = ys.mergeSort le := by
  refine List.Perm.eq_of_pairwise ?_ (pairwise_mergeSort_key h xs) (pairwise_mergeSort_key h ys)
    ((List.mergeSort_perm xs le).trans (hp.trans (List.mergeSort_perm ys le).symm))
  intro a b ha hb hab hba
  rw [List.mem_mergeSort] at ha hb
  exact hkey a ha b (hp.mem_iff.mpr hb) (le_antisymm hab hba)

end

end Guardrail
