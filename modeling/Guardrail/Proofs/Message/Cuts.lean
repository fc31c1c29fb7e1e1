import Guardrail.Proofs.Message.Placeholders
import Mathlib.Data.List.Forall2

/-!
# Cutting templates

A template is cut in front of its leftmost placeholder and behind it, and what follows is cut in the
same way. There is one way to do so. The message puts the parts together again, with something from
the record for every placeholder, and what comes from the record is not cut.
-/

namespace Guardrail.Message

variable {cs front path mark back front' path' mark' back' s t : List Char}

/-! ## Placeholders in a template -/

/-- In a template a placeholder stands between two texts. -/
def Stands (cs front path mark back : List Char) : Prop :=
  cs = front ++ (mark ++ back) ∧ IsPlaceholder path mark

theorem not_stands_nil : ¬Stands [] front path mark back := by
  rintro ⟨hcs, hmark⟩
  obtain ⟨tail, rfl, -, -⟩ := hmark.exists_tail
  simp at hcs

/-- Behind a first character a placeholder stands where it stands without it. -/
theorem stands_cons_iff {c d : Char} :
    Stands (c :: cs) (d :: front) path mark back ↔ c = d ∧ Stands cs front path mark back := by
  simp [Stands, and_assoc]

/-- A placeholder that nothing stands in front of is the one that the scanner finds. -/
theorem placeholder?_eq_some_iff :
    placeholder? cs = some (path, back) ↔ ∃ mark, Stands cs [] path mark back := by
  constructor
  · intro h
    obtain ⟨mark, hmark, hcs⟩ := exists_of_placeholder? h
    exact ⟨mark, hcs, hmark⟩
  · rintro ⟨mark, rfl, hmark⟩
    exact placeholder?_append hmark back

/-- Where two placeholders begin at one place, they are the same one. -/
theorem Stands.unique (h : Stands cs front path mark back)
    (h' : Stands cs front' path' mark' back') (hlength : front.length = front'.length) :
    front = front' ∧ path = path' ∧ mark = mark' ∧ back = back' := by
  obtain ⟨hcs, hmark⟩ := h
  obtain ⟨hcs', hmark'⟩ := h'
  obtain ⟨rfl, hrest⟩ := List.append_inj (hcs.symm.trans hcs') hlength
  have hfound := placeholder?_append hmark back
  rw [hrest, placeholder?_append hmark' back'] at hfound
  obtain ⟨rfl, rfl⟩ := Prod.mk.inj (Option.some.inj hfound)
  exact ⟨rfl, rfl, List.append_cancel_right hrest, rfl⟩

/-- Of two placeholders the one further back stands behind the other. -/
theorem Stands.exists_behind (h : Stands cs front path mark back)
    (h' : Stands cs front' path' mark' back') (hlength : front.length < front'.length) :
    ∃ between, front' = front ++ (mark ++ between) ∧ Stands back between path' mark' back' := by
  obtain ⟨hcs, hmark⟩ := h
  obtain ⟨hcs', hmark'⟩ := h'
  obtain ⟨mid, rfl⟩ : front <+: front' :=
    List.prefix_of_prefix_length_le ⟨_, hcs.symm⟩ ⟨_, hcs'.symm⟩ (Nat.le_of_lt hlength)
  have hmid : mid ≠ [] := by
    rintro rfl
    simp at hlength
  have hrest : mark ++ back = mid ++ (mark' ++ back') := by
    rw [hcs, List.append_assoc] at hcs'
    exact List.append_cancel_left hcs'
  obtain ⟨between, rfl⟩ := exists_append_of_ne_nil hmark' hmark hmid hrest
  refine ⟨between, ?_, rfl, hmark'⟩
  rw [← List.append_assoc mark, List.append_cancel_right_eq] at hrest
  rw [hrest]

/-! ## The cut -/

/-- A part of a template: text that stands for itself, or a placeholder for a path. -/
inductive Part where
  | literal (cs : List Char)
  | placeholder (path mark : List Char)

/-- The text of a part in the template. -/
def Part.text : Part → List Char
  | .literal cs => cs
  | .placeholder _ mark => mark

/-- A template is cut into parts from left to right, at its leftmost placeholder first. -/
inductive IsCut : List Char → List Part → Prop where
  | done {cs : List Char} (h : ∀ front path mark back, ¬Stands cs front path mark back) :
      IsCut cs [.literal cs]
  | next {cs front path mark back : List Char} {parts : List Part}
      (h : Stands cs front path mark back)
      (leftmost : ∀ front' path' mark' back', Stands cs front' path' mark' back' →
        front.length ≤ front'.length)
      (rest : IsCut back parts) : IsCut cs (.literal front :: .placeholder path mark :: parts)

namespace IsCut

variable {parts parts' before after : List Part}

theorem unique (h : IsCut cs parts) (h' : IsCut cs parts') : parts = parts' := by
  induction h generalizing parts' with
  | done hnone =>
      cases h' with
      | done => rfl
      | next hstands => exact absurd hstands (hnone _ _ _ _)
  | next hstands hleft _ ih =>
      cases h' with
      | done hnone => exact absurd hstands (hnone _ _ _ _)
      | next hstands' hleft' hrest' =>
          have hlength := Nat.le_antisymm (hleft _ _ _ _ hstands') (hleft' _ _ _ _ hstands)
          obtain ⟨rfl, rfl, rfl, rfl⟩ := hstands.unique hstands' hlength
          rw [ih hrest']

/-- A character that no placeholder begins with belongs to the first part. -/
theorem cons {c : Char} (hnone : placeholder? (c :: cs) = none)
    (h : IsCut cs (.literal front :: parts)) : IsCut (c :: cs) (.literal (c :: front) :: parts) := by
  have hbehind : ∀ {front path mark back}, Stands (c :: cs) front path mark back →
      ∃ front', front = c :: front' ∧ Stands cs front' path mark back := by
    intro front path mark back hstands
    cases front with
    | nil =>
        have hfound := placeholder?_eq_some_iff.mpr ⟨mark, hstands⟩
        rw [hnone] at hfound
        contradiction
    | cons d front =>
        obtain ⟨rfl, hfront⟩ := stands_cons_iff.mp hstands
        exact ⟨front, rfl, hfront⟩
  cases h with
  | done hno =>
      refine .done fun front path mark back hstands => ?_
      obtain ⟨front', -, hstands⟩ := hbehind hstands
      exact hno _ _ _ _ hstands
  | next hstands hleft hrest =>
      refine .next (stands_cons_iff.mpr ⟨rfl, hstands⟩) ?_ hrest
      intro front' path' mark' back' hstands'
      obtain ⟨front'', rfl, hstands''⟩ := hbehind hstands'
      exact Nat.succ_le_succ (hleft _ _ _ _ hstands'')

theorem flatMap_text (h : IsCut cs parts) : parts.flatMap Part.text = cs := by
  induction h with
  | done => simp [Part.text]
  | next hstands _ _ ih =>
      rw [List.flatMap_cons, List.flatMap_cons, ih, hstands.1]
      rfl

theorem isPlaceholder_of_mem (h : IsCut cs parts) (hmem : .placeholder path mark ∈ parts) :
    IsPlaceholder path mark := by
  induction h with
  | done => simp at hmem
  | next hstands _ _ ih =>
      rcases List.mem_cons.mp hmem with he | hmem
      · cases he
      · rcases List.mem_cons.mp hmem with he | hmem
        · cases he
          exact hstands.2
        · exact ih hmem

theorem stands (h : IsCut cs (before ++ .placeholder path mark :: after)) :
    Stands cs (before.flatMap Part.text) path mark (after.flatMap Part.text) := by
  refine ⟨?_, h.isPlaceholder_of_mem (by simp)⟩
  rw [← h.flatMap_text, List.flatMap_append, List.flatMap_cons]
  rfl

/-- Every placeholder of a template is cut out of it. -/
theorem exists_of_stands (h : IsCut cs parts) (hstands : Stands cs front path mark back) :
    ∃ before after, parts = before ++ .placeholder path mark :: after ∧
      before.flatMap Part.text = front := by
  induction h generalizing front with
  | done hnone => exact absurd hstands (hnone _ _ _ _)
  | @next cs first path' mark' back' parts hstands' hleft _ ih =>
      rcases Nat.eq_or_lt_of_le (hleft _ _ _ _ hstands) with heq | hlt
      · obtain ⟨rfl, rfl, rfl, rfl⟩ := hstands'.unique hstands heq
        exact ⟨[.literal first], parts, rfl, by simp [Part.text]⟩
      · obtain ⟨between, rfl, hbehind⟩ := hstands'.exists_behind hstands hlt
        obtain ⟨before, after, rfl, hbefore⟩ := ih hbehind
        refine ⟨.literal first :: .placeholder path' mark' :: before, after, rfl, ?_⟩
        rw [List.flatMap_cons, List.flatMap_cons, hbefore]
        rfl

end IsCut

/-! ## What becomes of the parts -/

/-- A literal stays what it is. In the place of a placeholder stands the text that its path leads
to, another value as JSON text, or the path if it leads nowhere. -/
inductive Becomes (data : FlatRecord) : Part → List Char → Prop where
  | literal (cs : List Char) : Becomes data (.literal cs) cs
  | text {path mark : List Char} {s : String}
      (h : data.get? (String.ofList path) = some (.text s)) :
      Becomes data (.placeholder path mark) s.toList
  | missing {path mark : List Char}
      (h : data.get? (String.ofList path) = none ∨ data.get? (String.ofList path) = some .null) :
      Becomes data (.placeholder path mark) ('<' :: (path ++ ['>']))
  | value {path mark : List Char} {x : Json} (h : data.get? (String.ofList path) = some x)
      (hnull : x ≠ .null) (htext : ∀ s, x ≠ .text s) :
      Becomes data (.placeholder path mark) x.render.toList

theorem becomes_substitute (data : FlatRecord) (path mark : List Char) :
    Becomes data (.placeholder path mark) (substitute data (String.ofList path)).toList := by
  have hmissing : ("<" ++ String.ofList path ++ ">").toList = '<' :: (path ++ ['>']) := by simp
  unfold substitute
  split
  next s h => exact .text h
  next h => exact hmissing ▸ .missing (.inr h)
  next h => exact hmissing ▸ .missing (.inl h)
  next x htext hnull h => exact .value h hnull htext

/-- The scanner's pieces are the parts of the cut, literals letter by letter. -/
theorem exists_isCut (cs : List Char) :
    ∃ front parts, IsCut cs (.literal front :: parts) ∧ ∀ data, ∃ texts,
      List.Forall₂ (Becomes data) parts texts ∧
      (pieces cs).flatMap (Piece.render data) = front ++ texts.flatten := by
  fun_induction pieces cs with
  | case1 => exact ⟨[], [], .done fun _ _ _ _ => not_stands_nil, fun _ => ⟨[], .nil, rfl⟩⟩
  | case2 c rest path tail hfound _ ih =>
      obtain ⟨front, parts, hcut, htexts⟩ := ih
      obtain ⟨mark, hstands⟩ := placeholder?_eq_some_iff.mp hfound
      refine ⟨[], .placeholder path mark :: .literal front :: parts,
        .next hstands (fun _ _ _ _ _ => Nat.zero_le _) hcut, fun data => ?_⟩
      obtain ⟨texts, hbecomes, hpieces⟩ := htexts data
      refine ⟨(substitute data (String.ofList path)).toList :: front :: texts,
        .cons (becomes_substitute data path mark) (.cons (.literal front) hbecomes), ?_⟩
      rw [List.flatMap_cons, hpieces]
      rfl
  | case3 c rest hfound ih =>
      obtain ⟨front, parts, hcut, htexts⟩ := ih
      refine ⟨c :: front, parts, hcut.cons hfound, fun data => ?_⟩
      obtain ⟨texts, hbecomes, hpieces⟩ := htexts data
      refine ⟨texts, hbecomes, ?_⟩
      rw [List.flatMap_cons, hpieces]
      rfl

/-! ## Templates put together -/

/-- A placeholder of two texts put together begins in the first one and ends in the second. -/
def Straddles (s t : List Char) : Prop :=
  ∃ before path mark after, IsCut (s ++ t) (before ++ .placeholder path mark :: after) ∧
    (before.flatMap Part.text).length < s.length ∧
    s.length < (before.flatMap Part.text ++ mark).length

theorem straddles_iff_stands :
    Straddles s t ↔ ∃ front path mark back, Stands (s ++ t) front path mark back ∧
      front.length < s.length ∧ s.length < (front ++ mark).length := by
  constructor
  · rintro ⟨before, path, mark, after, hcut, hbegin, hend⟩
    exact ⟨_, path, mark, _, hcut.stands, hbegin, hend⟩
  · rintro ⟨front, path, mark, back, hstands, hbegin, hend⟩
    obtain ⟨first, rest, hcut, -⟩ := exists_isCut (s ++ t)
    obtain ⟨before, after, hparts, rfl⟩ := hcut.exists_of_stands hstands
    exact ⟨before, path, mark, after, hparts ▸ hcut, hbegin, hend⟩

/-- What straddles in a part straddles in the whole. -/
theorem Straddles.append_left (h : Straddles s t) (first : List Char) :
    Straddles (first ++ s) t := by
  obtain ⟨front, path, mark, back, ⟨hst, hmark⟩, hbegin, hend⟩ := straddles_iff_stands.mp h
  refine straddles_iff_stands.mpr ⟨first ++ front, path, mark, back, ⟨?_, hmark⟩, ?_, ?_⟩
  · rw [List.append_assoc, hst, List.append_assoc]
  · simpa using hbegin
  · simpa [Nat.add_assoc] using hend

/-- The characters at the joint belong to the placeholder that straddles. -/
theorem Straddles.exists_mem (h : Straddles s t) : ∃ path mark, IsPlaceholder path mark ∧
    (∃ c ∈ mark, s.getLast? = some c) ∧ ∃ c ∈ mark, t.head? = some c := by
  obtain ⟨front, path, mark, back, ⟨hst, hmark⟩, hbegin, hend⟩ := straddles_iff_stands.mp h
  obtain ⟨opened, rfl⟩ : front <+: s :=
    List.prefix_of_prefix_length_le ⟨_, hst.symm⟩ ⟨_, rfl⟩ (Nat.le_of_lt hbegin)
  rw [List.append_assoc, List.append_cancel_left_eq] at hst
  rw [List.length_append, List.length_append, Nat.add_lt_add_iff_left] at hend
  obtain ⟨closed, rfl⟩ : opened <+: mark :=
    List.prefix_of_prefix_length_le ⟨_, rfl⟩ ⟨_, hst.symm⟩ (Nat.le_of_lt hend)
  rw [List.append_assoc, List.append_cancel_left_eq] at hst
  have hopened : opened ≠ [] := by
    rintro rfl
    simp at hbegin
  have hclosed : closed ≠ [] := by
    rintro rfl
    simp at hend
  refine ⟨path, _, hmark, ⟨opened.getLast hopened, ?_, ?_⟩, closed.head hclosed, ?_, ?_⟩
  · exact List.mem_append_left _ (List.getLast_mem hopened)
  · rw [List.getLast?_append_of_ne_nil _ hopened, List.getLast?_eq_some_getLast hopened]
  · exact List.mem_append_right _ (List.head_mem hclosed)
  · rw [hst, List.head?_append_of_ne_nil _ hclosed, List.head?_eq_some_head hclosed]

/-- Whether a placeholder straddles can be seen at the places where it may begin. -/
theorem straddles_iff :
    Straddles s t ↔ ∃ i < s.length,
      (placeholder? ((s ++ t).drop i)).any (fun found => found.2.length < t.length) = true := by
  rw [straddles_iff_stands]
  constructor
  · rintro ⟨front, path, mark, back, ⟨hst, hmark⟩, hbegin, hend⟩
    refine ⟨front.length, hbegin, ?_⟩
    have hlength := congrArg List.length hst
    simp only [List.length_append] at hlength hend
    have hshort : back.length < t.length := by omega
    rw [hst, List.drop_left, placeholder?_append hmark, Option.any_some]
    exact decide_eq_true hshort
  · rintro ⟨i, hi, hfound⟩
    rw [Option.any_eq_true] at hfound
    obtain ⟨⟨path, back⟩, hfound, hback⟩ := hfound
    obtain ⟨mark, hdrop, hmark⟩ := placeholder?_eq_some_iff.mp hfound
    have hfront : ((s ++ t).take i).length = i :=
      List.length_take_of_le (by rw [List.length_append]; omega)
    have hlength := congrArg List.length hdrop
    simp only [List.length_drop, List.length_append, List.length_nil] at hlength
    have hshort : back.length < t.length := of_decide_eq_true hback
    refine ⟨(s ++ t).take i, path, mark, back, ⟨?_, hmark⟩, by omega, ?_⟩
    · rw [← List.nil_append (mark ++ back), ← hdrop, List.take_append_drop]
    · rw [List.length_append]
      omega

instance (s t : List Char) : Decidable (Straddles s t) :=
  decidable_of_iff _ straddles_iff.symm

theorem pieces_of_some {c : Char} (h : placeholder? (c :: cs) = some (path, back)) :
    pieces (c :: cs) = .placeholder path :: pieces back := by
  rw [pieces]
  split
  next path' back' h' =>
    obtain ⟨rfl, rfl⟩ := Prod.mk.inj (Option.some.inj (h.symm.trans h'))
    rfl
  next h' => exact absurd (h.symm.trans h') (Option.some_ne_none _)

theorem pieces_of_none {c : Char} (h : placeholder? (c :: cs) = none) :
    pieces (c :: cs) = .literal c :: pieces cs := by
  rw [pieces]
  split
  next h' => exact absurd (h'.symm.trans h) (Option.some_ne_none _)
  next => rfl

/-- The scanner finds no placeholder in front of a text that it does not find without it. -/
theorem placeholder?_append_eq_none (hne : s ≠ []) (hnone : placeholder? s = none)
    (h : ¬Straddles s t) : placeholder? (s ++ t) = none := by
  rw [Option.eq_none_iff_forall_ne_some]
  rintro ⟨path, back⟩ hfound
  obtain ⟨mark, hstands⟩ := placeholder?_eq_some_iff.mp hfound
  have hst : s ++ t = mark ++ back := hstands.1
  have hmark := hstands.2
  rcases List.append_eq_append_iff.mp hst with ⟨mid, rfl, -⟩ | ⟨mid, rfl, -⟩
  · cases mid with
    | nil =>
        -- the first text is the placeholder
        rw [List.append_nil] at hmark
        rw [← List.append_nil s, placeholder?_append hmark] at hnone
        exact absurd hnone (Option.some_ne_none _)
    | cons d mid =>
        exact h (straddles_iff_stands.mpr
          ⟨[], path, _, back, hstands, List.length_pos_of_ne_nil hne, by simp⟩)
  · rw [placeholder?_append hmark] at hnone
    exact absurd hnone (Option.some_ne_none _)

theorem pieces_append (h : ¬Straddles s t) : pieces (s ++ t) = pieces s ++ pieces t := by
  fun_induction pieces s with
  | case1 => rfl
  | case2 c rest path tail hfound _ ih =>
      obtain ⟨mark, hrest, hmark⟩ := placeholder?_eq_some_iff.mp hfound
      rw [List.nil_append] at hrest
      have htail : ¬Straddles tail t := fun ht => h (hrest ▸ ht.append_left mark)
      have hfound' : placeholder? (c :: (rest ++ t)) = some (path, tail ++ t) := by
        rw [← List.cons_append, hrest, List.append_assoc, placeholder?_append hmark]
      rw [List.cons_append, pieces_of_some hfound', ih htail]
      rfl
  | case3 c rest hfound ih =>
      have hrest : ¬Straddles rest t := fun ht => h (ht.append_left [c])
      have hfound' : placeholder? (c :: (rest ++ t)) = none :=
        placeholder?_append_eq_none (List.cons_ne_nil c rest) hfound h
      rw [List.cons_append, pieces_of_none hfound', ih hrest]
      rfl

theorem render_append {s t : String} (h : ¬Straddles s.toList t.toList) (data : FlatRecord) :
    render (s ++ t) data = render s data ++ render t data := by
  rw [render, String.toList_append, pieces_append h, List.flatMap_append, String.ofList_append]
  rfl

/-- A template without a placeholder is the message. -/
theorem render_eq_self {template : String} (h : ∀ path, ¬Names template path) (data : FlatRecord) :
    render template data = template := by
  obtain ⟨front, parts, hcut, htexts⟩ := exists_isCut template.toList
  have hdone : IsCut template.toList [.literal template.toList] := by
    refine .done fun front path mark back hstands => ?_
    exact h (String.ofList path) ⟨front, mark, back, hstands.1, by simpa using hstands.2⟩
  obtain ⟨rfl, rfl⟩ : front = template.toList ∧ parts = [] := by simpa using hcut.unique hdone
  obtain ⟨texts, hbecomes, hpieces⟩ := htexts data
  cases hbecomes
  rw [render, hpieces, List.flatten_nil, List.append_nil, String.ofList_toList]

/-- A message is the parts of its template put together, with something from the record for every
placeholder. Two templates that no placeholder straddles are rendered one by one, and two records
that agree on the paths of a template are rendered alike. -/
theorem render_by_parts (template : String) (data : FlatRecord) :
    (∃ parts texts, IsCut template.toList parts ∧
      (∀ others, IsCut template.toList others → others = parts) ∧
      List.Forall₂ (Becomes data) parts texts ∧
      (render template data).toList = texts.flatten) ∧
    (∀ c, isPathChar c = true ↔ ('A' ≤ c ∧ c ≤ 'Z') ∨ ('a' ≤ c ∧ c ≤ 'z') ∨
      ('0' ≤ c ∧ c ≤ '9') ∨ c ∈ ['_', '.', '-', '[', ']']) ∧
    (∀ more : String, ¬Straddles template.toList more.toList →
      render (template ++ more) data = render template data ++ render more data) ∧
    ∀ data' : FlatRecord, (∀ path, Names template path → data.get? path = data'.get? path) →
      render template data = render template data' := by
  refine ⟨?_, fun c => isPathChar_iff, fun more h => render_append h data,
    fun data' h => render_congr h⟩
  obtain ⟨front, parts, hcut, htexts⟩ := exists_isCut template.toList
  obtain ⟨texts, hbecomes, hpieces⟩ := htexts data
  refine ⟨.literal front :: parts, front :: texts, hcut, fun others h => h.unique hcut,
    .cons (.literal front) hbecomes, ?_⟩
  rw [render, String.toList_ofList, hpieces, List.flatten_cons]

/-- Braces that open no placeholder stay, and so do those that the record brings. -/
theorem render_by_parts_of_braces :
    let template := "\x7b{{owner}}"
    let more := "\x7d pays {{ cost.total }}"
    let data : FlatRecord := ⟨[("owner", .text "{{team}}"), ("cost.total", .number (.int 3))]⟩
    let data' : FlatRecord := ⟨("team", .text "ops") :: data.entries⟩
    ¬Straddles template.toList more.toList ∧
      (∀ path, Names (template ++ more) path → data.get? path = data'.get? path) ∧
      render (template ++ more) data = "\x7b{{team}}\x7d pays 3" ∧
      render (template ++ more) data' = "\x7b{{team}}\x7d pays 3" := by
  intro template more data data'
  obtain ⟨-, -, happend, -⟩ := render_by_parts template data
  obtain ⟨-, -, -, hagree⟩ := render_by_parts (template ++ more) data
  have hapart : ¬Straddles template.toList more.toList := by decide +kernel
  have hpieces : pieces (template ++ more).toList =
      .literal '{' :: .placeholder "owner".toList :: "\x7d pays ".toList.map .literal ++
        [.placeholder "cost.total".toList] := by
    decide +kernel
  have hpaths : ∀ path, Names (template ++ more) path → data.get? path = data'.get? path := by
    intro path hpath
    rw [names_iff, hpieces] at hpath
    obtain rfl | rfl : path = "owner" ∨ path = "cost.total" := by
      simpa [← String.toList_inj] using hpath
    · rfl
    · rfl
  have hrender : render (template ++ more) data = "\x7b{{team}}\x7d pays 3" :=
    (happend more hapart).trans (by decide +kernel)
  exact ⟨hapart, hpaths, hrender, (hagree data' hpaths).symm.trans hrender⟩

/-- The halves of a placeholder are literals. -/
example :
    let opened := "\x7b\x7bowner"
    let closed := "\x7d\x7d"
    Straddles opened.toList closed.toList ∧ render (opened ++ closed) ⟨[]⟩ = "<owner>" ∧
      render opened ⟨[]⟩ ++ render closed ⟨[]⟩ = opened ++ closed := by
  decide +kernel

end Guardrail.Message
