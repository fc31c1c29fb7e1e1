import Guardrail.Message.Template
import Guardrail.Proofs.Text.Search

/-!
# Placeholders

A placeholder may stand anywhere in a template, and cutting a template into pieces finds all of
them. A message depends on the values of their paths alone.
-/

namespace Guardrail.Message

/-- A placeholder for a path: the path between double braces, blanks around it if one likes. -/
def IsPlaceholder (path mark : List Char) : Prop :=
  ∃ before after, (∀ c ∈ before, Text.isBlank c = true) ∧ (∀ c ∈ after, Text.isBlank c = true) ∧
    path ≠ [] ∧ (∀ c ∈ path, isPathChar c = true) ∧
    mark = '{' :: '{' :: (before ++ (path ++ (after ++ ['}', '}'])))

/-- Somewhere in a template stands a placeholder for a path. -/
def Names (template path : String) : Prop :=
  ∃ front mark back, template.toList = front ++ (mark ++ back) ∧ IsPlaceholder path.toList mark

/-! ## Characters -/

theorem isPathChar_iff {c : Char} :
    isPathChar c = true ↔ ('A' ≤ c ∧ c ≤ 'Z') ∨ ('a' ≤ c ∧ c ≤ 'z') ∨ ('0' ≤ c ∧ c ≤ '9') ∨
      c ∈ ['_', '.', '-', '[', ']'] := by
  delta isPathChar Char.isAlphanum Char.isAlpha Char.isUpper Char.isLower Char.isDigit
  simp [Char.le_def, or_assoc, or_left_comm]

theorem toNat_bounds_of_isPathChar {c : Char} (h : isPathChar c = true) :
    0x2d ≤ c.toNat ∧ c.toNat ≤ 0x7a := by
  rw [isPathChar_iff] at h
  simp only [Char.le_def, UInt32.le_iff_toNat_le, Char.reduceVal, UInt32.reduceToNat,
    List.mem_cons, List.not_mem_nil, or_false, Char.ext_iff, ← UInt32.toNat_inj] at h
  rw [Char.toNat]
  omega

theorem not_isBlank_of_isPathChar {c : Char} (h : isPathChar c = true) :
    Text.isBlank c = false := by
  rw [← Bool.not_eq_true]
  intro hb
  have hp := toNat_bounds_of_isPathChar h
  have hb := Text.toNat_bounds_of_isBlank hb
  omega

theorem not_isPathChar_of_isBlank {c : Char} (h : Text.isBlank c = true) :
    isPathChar c = false := by
  rw [← Bool.not_eq_true]
  intro hp
  rw [not_isBlank_of_isPathChar hp] at h
  exact Bool.false_ne_true h

/-- Behind its two opening braces a placeholder has no other. -/
theorem IsPlaceholder.exists_tail {path mark : List Char} (h : IsPlaceholder path mark) :
    ∃ tail, mark = '{' :: '{' :: tail ∧ tail ≠ [] ∧ '{' ∉ tail := by
  obtain ⟨before, after, hbefore, hafter, -, hpath, rfl⟩ := h
  refine ⟨_, rfl, by simp, ?_⟩
  have hblank : Text.isBlank '{' = false := by decide
  have hbrace : isPathChar '{' = false := by decide
  simp only [List.mem_append, not_or]
  refine ⟨fun hm => ?_, fun hm => ?_, fun hm => ?_, by decide⟩
  · simp [hbefore _ hm] at hblank
  · simp [hpath _ hm] at hbrace
  · simp [hafter _ hm] at hblank

theorem IsPlaceholder.mem_cases {path mark : List Char} (h : IsPlaceholder path mark) {c : Char}
    (hc : c ∈ mark) : Text.isBlank c = true ∨ isPathChar c = true ∨ c = '{' ∨ c = '}' := by
  obtain ⟨before, after, hbefore, hafter, -, hpath, rfl⟩ := h
  simp only [List.mem_cons, List.mem_append, List.not_mem_nil, or_false] at hc
  rcases hc with hc | hc | hc | hc | hc | hc | hc
  · exact .inr (.inr (.inl hc))
  · exact .inr (.inr (.inl hc))
  · exact .inl (hbefore c hc)
  · exact .inr (.inl (hpath c hc))
  · exact .inl (hafter c hc)
  · exact .inr (.inr (.inr hc))
  · exact .inr (.inr (.inr hc))

/-! ## The scanner -/

theorem placeholder?_append {path mark : List Char} (h : IsPlaceholder path mark)
    (rest : List Char) : placeholder? (mark ++ rest) = some (path, rest) := by
  obtain ⟨before, after, hbefore, hafter, hne, hpath, rfl⟩ := h
  have hend : ∀ c ∈ (after ++ '}' :: '}' :: rest).head?, isPathChar c = false := by
    intro c hc
    cases after with
    | nil =>
        obtain rfl : '}' = c := by simpa using hc
        decide
    | cons d after =>
        obtain rfl : d = c := by simpa using hc
        exact not_isPathChar_of_isBlank (hafter d List.mem_cons_self)
  have hstart : ∀ c ∈ (path ++ (after ++ '}' :: '}' :: rest)).head?, Text.isBlank c = false := by
    intro c hc
    cases path with
    | nil => exact absurd rfl hne
    | cons d path =>
        obtain rfl : d = c := by simpa using hc
        exact not_isBlank_of_isPathChar (hpath d List.mem_cons_self)
  have hclose : ∀ c ∈ ('}' :: '}' :: rest).head?, Text.isBlank c = false := by
    intro c hc
    obtain rfl : '}' = c := by simpa using hc
    decide
  simp only [placeholder?, List.cons_append, List.append_assoc, List.nil_append]
  rw [Text.dropWhile_append_of_head? hbefore hstart, Text.takeWhile_append_of_head? hpath hend,
    Text.dropWhile_append_of_head? hpath hend, Text.dropWhile_append_of_head? hafter hclose]
  simp [hne]

theorem exists_of_placeholder? {cs path rest : List Char}
    (h : placeholder? cs = some (path, rest)) :
    ∃ mark, IsPlaceholder path mark ∧ cs = mark ++ rest := by
  unfold placeholder? at h
  split at h
  · rename_i body
    dsimp only at h
    split at h
    · rename_i tail heq
      split at h
      · simp at h
      · rename_i hne
        cases h
        let body' := body.dropWhile Text.isBlank
        let behind := body'.dropWhile isPathChar
        refine ⟨_, ⟨body.takeWhile Text.isBlank, behind.takeWhile Text.isBlank,
          Text.forall_mem_takeWhile _ _, Text.forall_mem_takeWhile _ _, by simpa using hne,
          Text.forall_mem_takeWhile _ _, rfl⟩, ?_⟩
        have hbody : body = body.takeWhile Text.isBlank ++ (body'.takeWhile isPathChar ++
            (behind.takeWhile Text.isBlank ++ '}' :: '}' :: rest)) := by
          rw [← heq, List.takeWhile_append_dropWhile, List.takeWhile_append_dropWhile,
            List.takeWhile_append_dropWhile]
        simpa using hbody
    · simp at h
  · simp at h

/-- No placeholder begins within another. -/
theorem exists_append_of_ne_nil {path mark rest path' mark' rest' front : List Char}
    (h : IsPlaceholder path mark) (h' : IsPlaceholder path' mark') (hfront : front ≠ [])
    (heq : mark' ++ rest' = front ++ (mark ++ rest)) :
    ∃ front', rest' = front' ++ (mark ++ rest) := by
  obtain ⟨tail', rfl, hne, htail'⟩ := h'.exists_tail
  obtain ⟨tail, rfl, -, -⟩ := h.exists_tail
  rcases List.append_eq_append_iff.mp heq with ⟨mid, -, hmid⟩ | ⟨mid, hmark, hmid⟩
  · exact ⟨mid, hmid⟩
  · cases mid with
    | nil => exact ⟨[], hmid.symm⟩
    | cons c mid =>
        -- what begins in the first mark has a brace of its own there
        obtain ⟨rfl, htails⟩ := List.cons.inj hmid
        cases front with
        | nil => exact absurd rfl hfront
        | cons d front =>
            obtain ⟨-, hmark⟩ := List.cons.inj hmark
            cases front with
            | nil =>
                obtain ⟨-, rfl⟩ := List.cons.inj hmark
                cases tail' with
                | nil => exact absurd rfl hne
                | cons e tail' =>
                    obtain ⟨rfl, -⟩ := List.cons.inj htails
                    exact absurd List.mem_cons_self htail'
            | cons e front =>
                obtain ⟨-, rfl⟩ := List.cons.inj hmark
                exact absurd (List.mem_append_right _ List.mem_cons_self) htail'

/-! ## Pieces -/

theorem mem_pieces_iff {cs path : List Char} :
    .placeholder path ∈ pieces cs ↔
      ∃ front mark back, cs = front ++ (mark ++ back) ∧ IsPlaceholder path mark := by
  fun_induction pieces cs with
  | case1 =>
      refine iff_of_false List.not_mem_nil ?_
      rintro ⟨front, mark, back, hcs, hmark⟩
      obtain ⟨tail, rfl, -, -⟩ := hmark.exists_tail
      simp at hcs
  | case2 c rest path' tail hfound _ ih =>
      obtain ⟨mark', hmark', hcs'⟩ := exists_of_placeholder? hfound
      rw [List.mem_cons, ih, hcs']
      constructor
      · rintro (he | ⟨front, mark, back, rfl, hmark⟩)
        · cases he
          exact ⟨[], mark', tail, rfl, hmark'⟩
        · exact ⟨mark' ++ front, mark, back, by simp, hmark⟩
      · rintro ⟨front, mark, back, hcs, hmark⟩
        by_cases hfront : front = []
        · subst hfront
          rw [hcs', hcs, List.nil_append, placeholder?_append hmark] at hfound
          cases hfound
          exact .inl rfl
        · obtain ⟨front', hfront'⟩ := exists_append_of_ne_nil hmark hmark' hfront hcs
          exact .inr ⟨front', mark, back, hfront', hmark⟩
  | case3 c rest hfound ih =>
      rw [List.mem_cons, ih]
      constructor
      · rintro (he | ⟨front, mark, back, rfl, hmark⟩)
        · cases he
        · exact ⟨c :: front, mark, back, rfl, hmark⟩
      · rintro ⟨front, mark, back, hcs, hmark⟩
        cases front with
        | nil =>
            rw [hcs, List.nil_append, placeholder?_append hmark] at hfound
            cases hfound
        | cons d front =>
            obtain ⟨-, rfl⟩ := List.cons.inj hcs
            exact .inr ⟨front, mark, back, rfl, hmark⟩

theorem names_iff {template path : String} :
    Names template path ↔ .placeholder path.toList ∈ pieces template.toList :=
  mem_pieces_iff.symm

/-! ## Messages -/

theorem Piece.render_congr {data data' : FlatRecord} {piece : Piece}
    (h : ∀ path, piece = .placeholder path →
      data.get? (String.ofList path) = data'.get? (String.ofList path)) :
    piece.render data = piece.render data' := by
  cases piece with
  | literal c => rfl
  | placeholder path => rw [Piece.render, Piece.render, substitute, substitute, h path rfl]

theorem render_congr {template : String} {data data' : FlatRecord}
    (h : ∀ path, Names template path → data.get? path = data'.get? path) :
    render template data = render template data' := by
  have hpieces : (pieces template.toList).map (Piece.render data) =
      (pieces template.toList).map (Piece.render data') := by
    refine List.map_congr_left fun piece hpiece => Piece.render_congr fun path he => h _ ?_
    rw [names_iff, String.toList_ofList, ← he]
    exact hpiece
  rw [render, render, List.flatMap_def, List.flatMap_def, hpieces]

end Guardrail.Message
