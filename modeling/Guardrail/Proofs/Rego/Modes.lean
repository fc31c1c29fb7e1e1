import Guardrail.Proofs.Rego.Bodies
import Guardrail.Proofs.Rego.Moments

/-!
# Modes

At every moment of a scan the mode of the scanner, its depth and the open rule agree. So the scanner
either is between two rules and has nothing left of them but their blocks, or it is in the body of a
rule with some brackets open.
-/

namespace Guardrail.Rego

namespace Scanner

/-! ## Sound states -/

/-- The mode, the depth and the open rule agree, and what is kept for later fits the mode. -/
structure IsSound (s : Scanner) : Prop where
  outside_iff_depth : s.mode = .outside ↔ s.depth = 0
  outside_iff_draft : s.mode = .outside ↔ s.draft? = none
  body_iff : s.mode = .body ↔ s.depth = 1
  nested_iff : s.mode = .nested ↔ 2 ≤ s.depth
  outside_of_pending : s.pending? ≠ none → s.mode = .outside
  statement_of_outside : s.mode = .outside → s.statement = []

/-- Between two lines, moreover, no statement of a body is open outside brackets. -/
structure IsSettled (s : Scanner) : Prop extends IsSound s where
  statement_of_body : s.mode = .body → s.statement = []

/-- The scanner between two rules, where a head may wait for its brace. -/
def between (package : String) (bs : List Block) (pending? : Option Head) : Scanner :=
  { idle package bs with pending? }

variable {package : String} {bs : List Block} {d : Draft} {s : Scanner}

theorem isSettled_between (package : String) (bs : List Block) (pending? : Option Head) :
    (between package bs pending?).IsSettled := by
  constructor
  · constructor <;> simp [between, idle, start]
  · simp [between, idle, start]

theorem isSound_inside (package : String) (bs : List Block) (d : Draft) (depth : Nat)
    (st : List Char) : (inside package bs d depth st).IsSound := by
  cases depth <;> constructor <;> simp [inside]

theorem mode_inside_ne (package : String) (bs : List Block) (d : Draft) (depth : Nat)
    (st : List Char) : (inside package bs d depth st).mode ≠ .outside := by
  cases depth <;> simp [inside]

/-- Outside all rules nothing is kept but the package, the blocks and a waiting head. -/
theorem IsSound.exists_between (h : s.IsSound) (hs : s.mode = .outside) :
    ∃ package bs pending?, s = between package bs pending? := by
  have hdepth := h.outside_iff_depth.mp hs
  have hdraft := h.outside_iff_draft.mp hs
  have hstatement := h.statement_of_outside hs
  obtain ⟨package, mode, depth, draft?, pending?, statement, blocks⟩ := s
  exact ⟨package, blocks, pending?, by simp_all [between, idle, start]⟩

theorem IsSound.exists_inside (h : s.IsSound) (hs : s.mode ≠ .outside) :
    ∃ package bs d depth st, s = inside package bs d depth st := by
  have hdepth : s.depth ≠ 0 := fun h0 => hs (h.outside_iff_depth.mpr h0)
  obtain ⟨depth, hdepth⟩ := Nat.exists_eq_succ_of_ne_zero hdepth
  obtain ⟨d, hd⟩ := Option.ne_none_iff_exists'.mp fun hnone => hs (h.outside_iff_draft.mpr hnone)
  have hpending : s.pending? = none := by_contra fun hne => hs (h.outside_of_pending hne)
  have hmode : s.mode = if depth = 0 then .body else .nested := by
    split
    · exact h.body_iff.mpr (by omega)
    · exact h.nested_iff.mpr (by omega)
  obtain ⟨package, mode, depth', draft?, pending?, statement, blocks⟩ := s
  exact ⟨package, blocks, d, depth, statement, by simp_all [inside]⟩

/-! ## Single characters of a body -/

/-- A bracket that opens something. -/
abbrev IsOpening (c : Char) : Prop :=
  c = '{' ∨ c = '[' ∨ c = '('

/-- A bracket that closes something. -/
abbrev IsClosing (c : Char) : Prop :=
  c = '}' ∨ c = ']' ∨ c = ')'

theorem plain_inside_of_opening {c : Char} (hc : IsOpening c) (depth : Nat) (st : List Char) :
    (inside package bs d depth st).plain c = inside package bs d (depth + 1) (c :: st) := by
  rw [plain, if_pos hc, openBracket_inside]

theorem IsClosing.not_isOpening {c : Char} (hc : IsClosing c) : ¬IsOpening c := by
  rcases hc with rfl | rfl | rfl <;> simp [IsOpening]

theorem plain_inside_of_closing {c : Char} (hc : IsClosing c) (depth : Nat) (st : List Char) :
    (inside package bs d (depth + 1) st).plain c = inside package bs d depth (c :: st) := by
  rw [plain, if_neg hc.not_isOpening, if_pos hc, closeBracket_inside]

/-- A closing bracket that nothing opened is a character of the statement like any other. -/
theorem plain_inside_of_stray {c : Char} (hc : IsClosing c) (st : List Char) :
    (inside package bs d 0 st).plain c = inside package bs d 0 (c :: st) := by
  rw [plain, if_neg hc.not_isOpening, if_pos hc]
  simp [closeBracket, inside]

/-- A character that is no bracket leaves the depth as it is. -/
theorem exists_plain_inside {c : Char} (hopen : ¬IsOpening c) (hclose : ¬IsClosing c) (depth : Nat)
    (st : List Char) :
    ∃ d' st', (inside package bs d depth st).plain c = inside package bs d' depth st' := by
  by_cases hsep : c = ';' ∧ depth = 0
  · obtain ⟨rfl, rfl⟩ := hsep
    exact ⟨_, _, plain_inside_separator st⟩
  · exact ⟨_, _, plain_inside hopen hclose hsep st⟩

/-- A character of a body that does not end the rule leads to the body again. -/
theorem exists_plain_eq_inside (c : Char) (depth : Nat) (st : List Char) :
    ∃ d' depth' st', (inside package bs d depth st).plain c = inside package bs d' depth' st' := by
  by_cases hopen : IsOpening c
  · exact ⟨_, _, _, plain_inside_of_opening hopen depth st⟩
  · by_cases hclose : IsClosing c
    · cases depth with
      | zero => exact ⟨_, _, _, plain_inside_of_stray hclose st⟩
      | succ depth => exact ⟨_, _, _, plain_inside_of_closing hclose depth st⟩
    · obtain ⟨d', st', h⟩ := exists_plain_inside hopen hclose depth st
      exact ⟨d', depth, st', h⟩

theorem endLine_inside (depth : Nat) (st : List Char) :
    (inside package bs d depth st).endLine =
      if depth = 0 then inside package bs (d.finish st) 0 []
      else inside package bs d depth (' ' :: st) := by
  cases depth with
  | zero =>
      have hmode : (inside package bs d 0 st).mode = .body := rfl
      rw [endLine, if_pos hmode, if_pos rfl, flush_inside]
  | succ depth => simp [endLine, inside, push]

/-- A line outside rules changes the package and the waiting head at most, and it keeps the package if
it opens a rule. -/
theorem declare_between {pending? : Option Head} {line : List Char} {s' : Scanner}
    {opened? : Option (Head × List Char)}
    (hd : (between package bs pending?).declare line = (s', opened?)) :
    ∃ package' pending?', s' = between package' bs pending?' ∧
      (opened?.isSome → package' = package) := by
  unfold declare at hd
  split at hd
  · obtain ⟨rfl, rfl⟩ := Prod.mk.inj hd
    exact ⟨package, pending?, rfl, fun _ => rfl⟩
  · obtain ⟨rfl, -⟩ := Prod.mk.inj hd
    exact ⟨package, none, rfl, fun _ => rfl⟩
  · dsimp only at hd
    split at hd
    · rename_i name _
      obtain ⟨rfl, rfl⟩ := Prod.mk.inj hd
      exact ⟨name, none, rfl, nofun⟩
    · split at hd
      · obtain ⟨rfl, -⟩ := Prod.mk.inj hd
        exact ⟨package, none, rfl, fun _ => rfl⟩
      · rename_i h _
        obtain ⟨rfl, -⟩ := Prod.mk.inj hd
        exact ⟨package, some h, rfl, fun _ => rfl⟩
      · obtain ⟨rfl, -⟩ := Prod.mk.inj hd
        exact ⟨package, none, rfl, fun _ => rfl⟩

/-! ## Sound moments -/

namespace Moment

/-- The scanner is sound, and it stands where its mode says. -/
def IsSound (m : Moment) : Prop :=
  match m.place with
  | .lineEnd => m.scanner.IsSettled
  | .outside _ => m.scanner.IsSound ∧ m.scanner.mode = .outside
  | .body _ _ => m.scanner.IsSound ∧ m.scanner.mode ≠ .outside

variable {m m' : Moment}

theorem IsSound.isSound_scanner (h : m.IsSound) : m.scanner.IsSound := by
  obtain ⟨s, place, lines⟩ := m
  cases place with
  | lineEnd => exact h.toIsSound
  | outside rest => exact h.1
  | body front rest => exact h.1

theorem IsSound.exists_between {line : List Char} {lines : List (List Char)}
    (h : IsSound ⟨s, .outside line, lines⟩) :
    ∃ package bs pending?, s = between package bs pending? :=
  Scanner.IsSound.exists_between h.1 h.2

theorem IsSound.exists_inside {front rest : List Char} {lines : List (List Char)}
    (h : IsSound ⟨s, .body front rest, lines⟩) :
    ∃ package bs d depth st, s = inside package bs d depth st :=
  Scanner.IsSound.exists_inside h.1 h.2

theorem isSound_body_inside (package : String) (bs : List Block) (d : Draft) (depth : Nat)
    (st front rest : List Char) (lines : List (List Char)) :
    IsSound ⟨inside package bs d depth st, .body front rest, lines⟩ :=
  ⟨isSound_inside package bs d depth st, mode_inside_ne package bs d depth st⟩

/-- A step of the scan keeps the moment sound. -/
theorem IsSound.follows (h : m.IsSound) (hm : m.Follows m') : m'.IsSound := by
  cases hm with
  | lineOutside hs => exact ⟨h.toIsSound, hs⟩
  | lineBody hs => exact ⟨h.toIsSound, hs⟩
  | declared hd =>
      obtain ⟨package, bs, pending?, rfl⟩ := h.exists_between
      obtain ⟨package', pending?', rfl, -⟩ := declare_between hd
      exact isSettled_between package' bs pending?'
  | opened hd =>
      obtain ⟨package, bs, pending?, rfl⟩ := h.exists_between
      obtain ⟨package', pending?', rfl, -⟩ := declare_between hd
      exact isSound_body_inside package' bs _ 0 [] _ _ _
  | ended =>
      obtain ⟨package, bs, d, depth, st, rfl⟩ := h.exists_inside
      rw [endLine_inside]
      split
      · exact ⟨isSound_inside package bs _ 0 [], fun _ => rfl⟩
      · rename_i hdepth
        have hsound := isSound_inside package bs d depth (' ' :: st)
        refine ⟨hsound, fun hbody => ?_⟩
        have hone : depth + 1 = 1 := hsound.body_iff.mp hbody
        omega
  | quoted hq =>
      obtain ⟨package, bs, d, depth, st, rfl⟩ := h.exists_inside
      exact isSound_body_inside package bs d depth (_ :: st) _ _ _
  | @plain _ c front rest lines hq hc =>
      obtain ⟨package, bs, d, depth, st, rfl⟩ := h.exists_inside
      obtain ⟨d', depth', st', hplain⟩ : ∃ d' depth' st',
          (inside package bs d depth st).plain c = inside package bs d' depth' st' :=
        exists_plain_eq_inside c depth st
      rw [hplain]
      exact isSound_body_inside package bs d' depth' st' _ _ _
  | closed hq hdepth =>
      obtain ⟨package, bs, d, depth, st, rfl⟩ := h.exists_inside
      obtain rfl : depth = 0 := Nat.le_zero.mp (Nat.le_of_succ_le_succ hdepth)
      rw [closeRule_inside]
      exact ⟨(isSettled_between package _ none).toIsSound, rfl⟩

theorem isSound_of_reaches (h : m.IsSound) (hm : m.Reaches m') : m'.IsSound := by
  induction hm with
  | refl => exact h
  | tail _ hstep ih => exact ih.follows hstep

end Moment

end Scanner

end Guardrail.Rego
