import Guardrail.Proofs.Rego.Continuation
import Guardrail.Proofs.Rego.Heads
import Guardrail.Proofs.Rego.Modes

/-!
# Depth

The depth counts the brackets that are open. A rule is complete only behind a closing brace outside
strings at depth one, and the next rule begins with nothing of what was read before it.
-/

namespace Guardrail.Rego

namespace Scanner

/-- A rule that a line opens begins with a brace on that line. -/
theorem brace_suffix_of_declare {s s' : Scanner} {line rest : List Char} {h : Head}
    (hd : s.declare line = (s', some (h, rest))) : '{' :: rest <:+ line := by
  unfold declare at hd
  split at hd
  · exact absurd hd (by simp)
  · obtain ⟨-, hopened⟩ := Prod.mk.inj hd
    obtain ⟨-, rfl⟩ := Prod.mk.inj (Option.some.inj hopened)
    exact List.suffix_rfl
  · dsimp only at hd
    split at hd
    · exact absurd hd (by simp)
    · split at hd
      · rename_i hhead
        obtain ⟨-, hopened⟩ := Prod.mk.inj hd
        obtain ⟨-, rfl⟩ := Prod.mk.inj (Option.some.inj hopened)
        exact brace_suffix_of_head? hhead
      · exact absurd hd (by simp)
      · exact absurd hd (by simp)

namespace Moment

variable {package : String} {bs : List Block} {d : Draft} {m m' : Moment}

/-! ## What a step does -/

/-- The next character of a body outside strings. -/
def Reads (m : Moment) (c : Char) : Prop :=
  ∃ front rest, m.place = .body front (c :: rest) ∧ Quoting.behind front = .plain

/-- A closing brace outside strings at depth one comes next. -/
def Closes (m : Moment) : Prop :=
  m.Reads '}' ∧ m.scanner.depth = 1

/-- The body of a rule begins, and nothing has been read before but the package. -/
def opening (package : String) (head : Head) (rest : List Char) (lines : List (List Char)) :
    Moment :=
  ⟨(idle package []).openRule head, .body [] rest, lines⟩

/-- What a step of the scan does to the depth and to the rules. A closing bracket takes away one
that was counted. Where none but the brace of the rule is open, `]` and `)` are characters of the
statement like any other. -/
structure Accounts (m m' : Moment) : Prop where
  opening : ∀ c, m.Reads c → IsOpening c → m'.scanner.depth = m.scanner.depth + 1
  closing : ∀ c, m.Reads c → IsClosing c → c = '}' ∨ 1 < m.scanner.depth →
    m.scanner.depth = m'.scanner.depth + 1
  stray : ∀ c, m.Reads c → c = ']' ∨ c = ')' → m.scanner.depth = 1 →
    m'.scanner = m.scanner.push c
  uncounted : m.scanner.mode ≠ .outside → (∀ c, m.Reads c → ¬IsOpening c ∧ ¬IsClosing c) →
    m'.scanner.depth = m.scanner.depth
  /-- A rule that begins has no statements yet, and what becomes of it and of all rules behind it
  hangs on the package, the head and the text behind its brace alone. -/
  begins : m.scanner.draft? = none → m'.scanner.draft? ≠ none → ∃ head line rest,
    let fresh := Moment.opening m.scanner.package head rest m.lines
    m.place = .outside line ∧ '{' :: rest <:+ Text.trim line ∧
      m' = { fresh with scanner := fresh.scanner.withFront m.scanner.blocks } ∧
      m'.finish.blocks = m.scanner.blocks ++ fresh.finish.blocks
  /-- The rule that ends is the only thing that is added, and nothing is left of its text. -/
  ends : m.Closes → ∃ d front rest, m.scanner.draft? = some d ∧
    m.place = .body front ('}' :: rest) ∧
      m' = ⟨idle m.scanner.package
        (m.scanner.blocks ++ [(d.finish m.scanner.statement).toBlock m.scanner.package]),
        .outside rest, m.lines⟩
  lasts : ¬m.Closes → m'.scanner.blocks = m.scanner.blocks ∧
    (m.scanner.draft? ≠ none → m'.scanner.draft? ≠ none)

theorem Follows.scanner_of_reads {c : Char} (hm : m.Follows m') (hc : m.Reads c) :
    c = '}' ∧ m.scanner.depth ≤ 1 ∧ m'.scanner = m.scanner.closeRule ∨
      ¬(c = '}' ∧ m.scanner.depth ≤ 1) ∧ m'.scanner = m.scanner.plain c := by
  obtain ⟨front, rest, hplace, hplain⟩ := hc
  cases hm with
  | lineOutside | lineBody | declared | opened | ended => simp at hplace
  | quoted hq =>
      obtain ⟨rfl, -⟩ := Place.body.inj hplace
      exact absurd hplain hq
  | plain hq hc =>
      obtain ⟨-, hchars⟩ := Place.body.inj hplace
      obtain ⟨rfl, -⟩ := List.cons.inj hchars
      exact .inr ⟨hc, rfl⟩
  | closed hq hdepth =>
      obtain ⟨-, hchars⟩ := Place.body.inj hplace
      obtain ⟨rfl, -⟩ := List.cons.inj hchars
      exact .inl ⟨rfl, hdepth, rfl⟩

theorem IsSound.exists_inside_of_reads {c : Char} (h : m.IsSound) (hc : m.Reads c) :
    ∃ package bs d depth st, m.scanner = inside package bs d depth st := by
  obtain ⟨s, place, lines⟩ := m
  obtain ⟨front, rest, rfl, -⟩ := hc
  exact h.exists_inside

theorem Follows.depth_of_opening {c : Char} (hm : m.Follows m') (h : m.IsSound) (hc : m.Reads c)
    (hopen : IsOpening c) : m'.scanner.depth = m.scanner.depth + 1 := by
  obtain ⟨package, bs, d, depth, st, hs⟩ := h.exists_inside_of_reads hc
  rcases hm.scanner_of_reads hc with ⟨rfl, -, -⟩ | ⟨-, hs'⟩
  · exact absurd hopen (by decide)
  · rw [hs', hs, plain_inside_of_opening hopen]
    rfl

theorem Follows.depth_of_closing {c : Char} (hm : m.Follows m') (h : m.IsSound) (hc : m.Reads c)
    (hclose : IsClosing c) (hcounted : c = '}' ∨ 1 < m.scanner.depth) :
    m.scanner.depth = m'.scanner.depth + 1 := by
  obtain ⟨package, bs, d, depth, st, hs⟩ := h.exists_inside_of_reads hc
  rw [hs] at hcounted ⊢
  rcases hm.scanner_of_reads hc with ⟨-, hdepth, hs'⟩ | ⟨hbrace, hs'⟩
  · rw [hs] at hdepth
    rw [hs', hs, closeRule]
    exact Nat.le_antisymm hdepth (Nat.succ_pos depth)
  · rw [hs] at hbrace
    cases depth with
    | zero =>
        -- at depth one only the brace of the rule counts, and it would end the rule
        rcases hcounted with rfl | hcounted
        · exact absurd ⟨rfl, Nat.le_refl 1⟩ hbrace
        · exact absurd hcounted (Nat.lt_irrefl 1)
    | succ depth =>
        rw [hs', hs, plain_inside_of_closing hclose]
        rfl

theorem Follows.scanner_of_stray {c : Char} (hm : m.Follows m') (h : m.IsSound) (hc : m.Reads c)
    (hstray : c = ']' ∨ c = ')') (hdepth : m.scanner.depth = 1) :
    m'.scanner = m.scanner.push c := by
  obtain ⟨package, bs, d, depth, st, hs⟩ := h.exists_inside_of_reads hc
  rw [hs] at hdepth
  obtain rfl : depth = 0 := Nat.succ.inj hdepth
  rcases hm.scanner_of_reads hc with ⟨rfl, -, -⟩ | ⟨-, hs'⟩
  · simp at hstray
  · rw [hs', hs, plain_inside_of_stray (.inr hstray), push_inside]

theorem Follows.depth_of_uncounted (hm : m.Follows m') (h : m.IsSound)
    (hmode : m.scanner.mode ≠ .outside)
    (huncounted : ∀ c, m.Reads c → ¬IsOpening c ∧ ¬IsClosing c) :
    m'.scanner.depth = m.scanner.depth := by
  cases hm with
  | lineOutside | lineBody => rfl
  | declared | opened => exact absurd h.2 hmode
  | ended =>
      obtain ⟨package, bs, d, depth, st, rfl⟩ := h.exists_inside
      rw [endLine_inside]
      split
      · rename_i hdepth
        rw [hdepth]
        rfl
      · rfl
  | quoted => rfl
  | @plain s c front rest lines hq _ =>
      obtain ⟨package, bs, d, depth, st, rfl⟩ := h.exists_inside
      obtain ⟨hopen, hclose⟩ := huncounted c ⟨front, rest, rfl, hq⟩
      obtain ⟨d', st', hplain⟩ : ∃ d' st',
          (inside package bs d depth st).plain c = inside package bs d' depth st' :=
        exists_plain_inside hopen hclose depth st
      rw [hplain]
      rfl
  | @closed s front rest lines hq _ =>
      obtain ⟨-, hclose⟩ := huncounted '}' ⟨front, rest, rfl, hq⟩
      exact absurd (.inl rfl) hclose

theorem Follows.ends (hm : m.Follows m') (h : m.IsSound) (hc : m.Closes) :
    ∃ d front rest, m.scanner.draft? = some d ∧ m.place = .body front ('}' :: rest) ∧
      m' = ⟨idle m.scanner.package
        (m.scanner.blocks ++ [(d.finish m.scanner.statement).toBlock m.scanner.package]),
        .outside rest, m.lines⟩ := by
  obtain ⟨⟨front, rest, hplace, hplain⟩, hdepth⟩ := hc
  cases hm with
  | lineOutside | lineBody | declared | opened | ended => simp at hplace
  | quoted hq =>
      obtain ⟨rfl, -⟩ := Place.body.inj hplace
      exact absurd hplain hq
  | plain _ hc =>
      obtain ⟨-, hchars⟩ := Place.body.inj hplace
      obtain ⟨rfl, -⟩ := List.cons.inj hchars
      exact absurd ⟨rfl, Nat.le_of_eq hdepth⟩ hc
  | @closed s front rest lines _ hle =>
      obtain ⟨package, bs, d, depth, st, rfl⟩ := h.exists_inside
      obtain rfl : depth = 0 := Nat.succ.inj hdepth
      rw [closeRule_inside]
      exact ⟨d, front, rest, rfl, rfl, rfl⟩

theorem Follows.lasts (hm : m.Follows m') (h : m.IsSound) (hc : ¬m.Closes) :
    m'.scanner.blocks = m.scanner.blocks ∧
      (m.scanner.draft? ≠ none → m'.scanner.draft? ≠ none) := by
  cases hm with
  | lineOutside | lineBody => exact ⟨rfl, id⟩
  | declared hd =>
      obtain ⟨package, bs, pending?, rfl⟩ := h.exists_between
      obtain ⟨package', pending?', rfl, -⟩ := declare_between hd
      exact ⟨rfl, id⟩
  | opened hd =>
      obtain ⟨package, bs, pending?, rfl⟩ := h.exists_between
      obtain ⟨package', pending?', rfl, -⟩ := declare_between hd
      exact ⟨rfl, fun _ => by simp [openRule]⟩
  | ended =>
      obtain ⟨package, bs, d, depth, st, rfl⟩ := h.exists_inside
      rw [endLine_inside]
      split <;> exact ⟨rfl, fun _ => by simp [inside]⟩
  | quoted => exact ⟨rfl, id⟩
  | @plain s c _ _ _ _ _ =>
      obtain ⟨package, bs, d, depth, st, rfl⟩ := h.exists_inside
      obtain ⟨d', depth', st', hplain⟩ : ∃ d' depth' st',
          (inside package bs d depth st).plain c = inside package bs d' depth' st' :=
        exists_plain_eq_inside c depth st
      rw [hplain]
      exact ⟨rfl, fun _ => by simp [inside]⟩
  | @closed s front rest lines hq hdepth =>
      obtain ⟨package, bs, d, depth, st, rfl⟩ := h.exists_inside
      exact absurd ⟨⟨front, rest, rfl, hq⟩, Nat.le_antisymm hdepth (Nat.succ_pos depth)⟩ hc

/-- Blocks in front stay in front, whatever is read behind them. -/
theorem blocks_finish_withFront (front : List Block) (s : Scanner) (before rest : List Char)
    (lines : List (List Char)) :
    (finish ⟨s.withFront front, .body before rest, lines⟩).blocks =
      front ++ (finish ⟨s, .body before rest, lines⟩).blocks := by
  have htrails := (trails_outside_body front).2 s (Quoting.behind before) rest
  exact (htrails.foldl_feed lines).blocks

theorem Follows.begins (hm : m.Follows m') (h : m.IsSound) (hs : m.scanner.draft? = none)
    (hs' : m'.scanner.draft? ≠ none) :
    ∃ head line rest,
      let fresh := Moment.opening m.scanner.package head rest m.lines
      m.place = .outside line ∧ '{' :: rest <:+ Text.trim line ∧
        m' = { fresh with scanner := fresh.scanner.withFront m.scanner.blocks } ∧
        m'.finish.blocks = m.scanner.blocks ++ fresh.finish.blocks := by
  have hmode : m.scanner.mode = .outside := h.isSound_scanner.outside_iff_draft.mpr hs
  cases hm with
  | lineOutside | lineBody => exact absurd hs hs'
  | declared hd =>
      obtain ⟨package, bs, pending?, rfl⟩ := h.exists_between
      obtain ⟨package', pending?', rfl, -⟩ := declare_between hd
      exact absurd rfl hs'
  | @opened s s' head line rest lines hd =>
      obtain ⟨package, bs, pending?, rfl⟩ := h.exists_between
      obtain ⟨package', pending?', rfl, hpackage⟩ := declare_between hd
      obtain rfl := hpackage rfl
      have hopen : (between package' bs pending?').openRule head =
          ((idle package' []).openRule head).withFront bs := by
        simp [openRule, withFront, between, idle]
      refine ⟨head, line, rest, rfl, brace_suffix_of_declare hd, ?_, ?_⟩
      · rw [hopen]
        rfl
      · rw [hopen]
        exact blocks_finish_withFront bs _ [] rest lines
  | ended | quoted | plain | closed => exact absurd hmode h.2

theorem Follows.accounts (hm : m.Follows m') (h : m.IsSound) : m.Accounts m' where
  opening _ hc hopen := hm.depth_of_opening h hc hopen
  closing _ hc hclose hcounted := hm.depth_of_closing h hc hclose hcounted
  stray _ hc hstray hdepth := hm.scanner_of_stray h hc hstray hdepth
  uncounted hmode huncounted := hm.depth_of_uncounted h hmode huncounted
  begins hs hs' := hm.begins h hs hs'
  ends hc := hm.ends h hc
  lasts hc := hm.lasts h hc

end Moment

/-- After any lines of a text the scanner is settled, and those lines lead to it. At every moment in
between it is sound, the next moment accounts for the depth and for the rules, and what is still to
come leads to the end of the text. -/
theorem isSettled_and_accounts (text : String) :
    (∀ before rest, Text.lines text.toList = before ++ rest →
        (before.foldl feed start).IsSettled ∧
          Moment.Occurs text ⟨before.foldl feed start, .lineEnd, rest⟩) ∧
      ∀ m, Moment.Occurs text m → m.IsSound ∧ m.finish = after text ∧
        (m.place = .lineEnd ∧ m.lines = [] ∨ ∃ m', m.Follows m') ∧
          ∀ m', m.Follows m' → m.Accounts m' := by
  have hstart : Moment.IsSound ⟨start, .lineEnd, Text.lines text.toList⟩ :=
    isSettled_between "" [] none
  refine ⟨fun before rest hlines => ?_, fun m hm => ?_⟩
  · have hreaches : Moment.Occurs text ⟨before.foldl feed start, .lineEnd, rest⟩ := by
      rw [Moment.Occurs, hlines]
      exact Moment.reaches_foldl_feed start before rest
    exact ⟨Moment.isSound_of_reaches hstart hreaches, hreaches⟩
  · have hsound : m.IsSound := Moment.isSound_of_reaches hstart hm
    exact ⟨hsound, Moment.finish_of_reaches hm, m.exists_follows,
      fun m' hstep => hstep.accounts hsound⟩

/-- A parenthesis that nothing opened, and the brace that ends the rule on the next line. -/
theorem accounts_of_stray_parenthesis :
    let text := "deny\x7b)\n\x7d"
    let line := "deny\x7b)".toList
    let s := start.openRule ⟨"deny", none⟩
    let t := (s.plain ')').endLine
    let stray : Moment := ⟨s, .body [] [')'], [['}']]⟩
    let closing : Moment := ⟨t, .body [] ['}'], []⟩
    Text.lines text.toList = [line] ++ [['}']] ∧ ([line].foldl feed start).IsSettled ∧
      Moment.Occurs text stray ∧ stray.Reads ')' ∧ s.plain ')' = s.push ')' ∧
      Moment.Occurs text closing ∧ closing.Closes ∧
      ∃ d, t.draft? = some d ∧ t.closeRule = idle "" [(d.finish []).toBlock ""] := by
  intro text line s t stray closing
  have hlines : Text.lines text.toList = [line] ++ [['}']] := by decide
  have hd : start.declare (Text.trim (stripComment line)) =
      (start, some (⟨"deny", none⟩, [')'])) := by
    rfl
  have hstray : Moment.Occurs text stray := by
    rw [Moment.Occurs, hlines]
    exact .head (.lineOutside rfl) (.single (.opened hd))
  have hreads : stray.Reads ')' := ⟨[], [], rfl, rfl⟩
  have hplain : stray.Follows ⟨s.plain ')', .body [')'] [], [['}']]⟩ := .plain rfl (by simp)
  have hclosing : Moment.Occurs text closing := by
    have hended : Moment.Follows ⟨s.plain ')', .body [')'] [], [['}']]⟩ ⟨t, .lineEnd, [['}']]⟩ :=
      .ended
    have hline : Moment.Follows ⟨t, .lineEnd, [['}']]⟩ closing := .lineBody (by decide)
    exact ((hstray.tail hplain).tail hended).tail hline
  have hcloses : closing.Closes := ⟨⟨[], [], rfl, rfl⟩, rfl⟩
  have hclosed : closing.Follows ⟨t.closeRule, .outside [], []⟩ := .closed rfl (Nat.le_refl 1)
  obtain ⟨hsettled, hmoments⟩ := isSettled_and_accounts text
  obtain ⟨-, -, -, hstep⟩ := hmoments stray hstray
  obtain ⟨-, -, -, hstep'⟩ := hmoments closing hclosing
  obtain ⟨d, _, _, hdraft, -, hends⟩ := (hstep' _ hclosed).ends hcloses
  exact ⟨hlines, (hsettled [line] [['}']] hlines).1, hstray, hreads,
    (hstep _ hplain).stray ')' hreads (.inr rfl) rfl, hclosing, hcloses, d, hdraft,
    congrArg Moment.scanner hends⟩

end Scanner

end Guardrail.Rego
