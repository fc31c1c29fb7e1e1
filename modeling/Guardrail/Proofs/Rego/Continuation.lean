import Guardrail.Proofs.Rego.Scanning

/-!
# Texts that go on

A rule that is complete stays as it is, whatever text follows. Between two rules the scanner keeps
nothing of what it has read but the package and the blocks, so a text that begins with its own
package is read as if it stood alone.
-/

namespace Guardrail.Rego

namespace Scanner

/-! ## Blocks in front -/

/-- The scanner with further blocks in front of its own. -/
def withFront (front : List Block) (s : Scanner) : Scanner :=
  { s with blocks := front ++ s.blocks }

/-- Two scanners between two rules, the second one behind further blocks. Depth, draft and statement
do not count there. -/
structure TrailsBetween (front : List Block) (s s' : Scanner) : Prop where
  mode : s.mode = .outside
  mode' : s'.mode = .outside
  package : s'.package = s.package
  pending : s'.pending? = s.pending?
  blocks : s'.blocks = front ++ s.blocks

/-- The second scanner reads what follows like the first one, behind further blocks. -/
inductive Trails (front : List Block) (s : Scanner) : Scanner → Prop where
  | within : Trails front s (s.withFront front)
  | between {s' : Scanner} (h : TrailsBetween front s s') : Trails front s s'

variable {front : List Block} {s s' : Scanner}

theorem plain_withFront (s : Scanner) (c : Char) :
    (s.withFront front).plain c = (s.plain c).withFront front := by
  simp only [plain, apply_ite (withFront front)]
  rfl

theorem endLine_withFront (s : Scanner) :
    (s.withFront front).endLine = s.endLine.withFront front := by
  rw [endLine, endLine, apply_ite (withFront front)]
  rfl

theorem closeRule_withFront (s : Scanner) :
    (s.withFront front).closeRule = s.closeRule.withFront front := by
  simp [closeRule, flush, withFront]

namespace TrailsBetween

theorem withFront (h : s.mode = .outside) : TrailsBetween front s (s.withFront front) :=
  ⟨h, h, rfl, rfl, rfl⟩

theorem declare (h : TrailsBetween front s s') {line : List Char} {t : Scanner}
    {opened? : Option (Head × List Char)} (hd : s.declare line = (t, opened?)) :
    ∃ t', s'.declare line = (t', opened?) ∧ TrailsBetween front t t' := by
  rw [declare_eq] at hd
  obtain ⟨rfl, rfl⟩ := Prod.mk.inj hd
  have hd' := declare_eq s' line
  rw [h.package, h.pending] at hd'
  exact ⟨_, hd', h.mode, h.mode', rfl, rfl, h.blocks⟩

/-- An opening brace sets afresh what did not count before it. -/
theorem openRule (h : TrailsBetween front s s') (head : Head) :
    s'.openRule head = (s.openRule head).withFront front := by
  simp [Scanner.openRule, Scanner.withFront, h.package, h.blocks]

end TrailsBetween

/-! ## Lines -/

/-- A line keeps two scanners together. The induction is on the mutual recursion of the two parts of
the scanner: a rule that is closed on the line leads from one to the other, and one that is opened
leads back. -/
theorem trails_outside_body (front : List Block) :
    (∀ (s : Scanner) line s', TrailsBetween front s s' →
        Trails front (s.outside line) (s'.outside line)) ∧
      ∀ (s : Scanner) q line, Trails front (s.body q line) ((s.withFront front).body q line) := by
  refine outside.mutual_induct
    (fun s line => ∀ s', TrailsBetween front s s' → Trails front (s.outside line) (s'.outside line))
    (fun s q line => Trails front (s.body q line) ((s.withFront front).body q line))
    ?declared ?opened ?ended ?closed ?plain ?quoted
  case declared =>
    intro s line t hd s' h
    obtain ⟨t', hd', ht⟩ := h.declare hd
    rw [outside_of_declare_none hd, outside_of_declare_none hd']
    exact .between ht
  case opened =>
    intro s line t head rest hd _ _ ih s' h
    obtain ⟨t', hd', ht⟩ := h.declare hd
    rw [outside_of_declare_some hd, outside_of_declare_some hd', ht.openRule]
    exact ih
  case ended =>
    intro s q
    rw [body_end, body_end, endLine_withFront]
    exact .within
  case closed =>
    intro s c rest hc ih
    have hc' : c = '}' ∧ (s.withFront front).depth ≤ 1 := hc
    rw [body, if_pos rfl, if_pos hc, body, if_pos rfl, if_pos hc', closeRule_withFront]
    exact ih _ (.withFront rfl)
  case plain =>
    intro s c rest hc ih
    have hc' : ¬(c = '}' ∧ (s.withFront front).depth ≤ 1) := hc
    rw [body, if_pos rfl, if_neg hc, body, if_pos rfl, if_neg hc', plain_withFront]
    exact ih
  case quoted =>
    intro s q c rest hq ih
    rw [body, if_neg hq, body, if_neg hq]
    exact ih

namespace Trails

theorem blocks (h : Trails front s s') : s'.blocks = front ++ s.blocks := by
  cases h with
  | within => rfl
  | between h => exact h.blocks

theorem feed (h : Trails front s s') (line : List Char) :
    Trails front (s.feed line) (s'.feed line) := by
  obtain ⟨houtside, hbody⟩ := trails_outside_body front
  cases h with
  | within =>
      by_cases hs : s.mode = .outside
      · have hs' : (s.withFront front).mode = .outside := hs
        rw [feed_eq_outside hs, feed_eq_outside hs']
        exact houtside _ _ _ (.withFront hs)
      · have hs' : (s.withFront front).mode ≠ .outside := hs
        rw [feed_eq_body hs, feed_eq_body hs']
        exact hbody _ _ _
  | between h =>
      rw [feed_eq_outside h.mode, feed_eq_outside h.mode']
      exact houtside _ _ _ h

theorem foldl_feed (h : Trails front s s') (ls : List (List Char)) :
    Trails front (ls.foldl Scanner.feed s) (ls.foldl Scanner.feed s') := by
  induction ls generalizing s s' with
  | nil => exact h
  | cons line ls ih => exact ih (h.feed line)

end Trails

/-- Every scanner reads on like one that has no blocks yet. -/
theorem trails_blocks (s : Scanner) : Trails s.blocks { s with blocks := [] } s := by
  have hs : withFront s.blocks { s with blocks := [] } = s := by
    simp [withFront]
  have h : Trails s.blocks { s with blocks := [] } (withFront s.blocks { s with blocks := [] }) :=
    .within
  rwa [hs] at h

theorem blocks_prefix_foldl_feed (s : Scanner) (ls : List (List Char)) :
    s.blocks <+: (ls.foldl feed s).blocks := by
  rw [(s.trails_blocks.foldl_feed ls).blocks]
  exact List.prefix_append _ _

/-! ## Texts -/

/-- The scanner behind a text. -/
def after (text : String) : Scanner :=
  (Text.lines text.toList).foldl feed start

/-- Outside all rules, and no head waits for its brace. -/
structure IsBetween (s : Scanner) : Prop where
  mode : s.mode = .outside
  pending : s.pending? = none

/-- The line feed between two texts ends the last line of the first one, which matters at most to a
rule that is open there. -/
theorem after_append_line (t₁ t₂ : String) :
    ∃ s : Scanner, (after t₁).Concurs s ∧
      after (t₁ ++ "\n" ++ t₂) = (Text.lines t₂.toList).foldl feed s := by
  obtain ⟨ls, line, hbefore, hboth⟩ := Text.exists_linesFrom_append_break [] t₁.toList
  refine ⟨(ls.foldl feed start).feed (Text.dropReturn line), ?_, ?_⟩
  · rw [after, Text.lines, hbefore]
    split
    · rename_i hempty
      obtain rfl := List.isEmpty_iff.mp hempty
      exact (concurs_feed_nil _).symm
    · rw [List.foldl_append]
      exact concurs_feed_dropReturn _ line
  · have htext : (t₁ ++ "\n" ++ t₂).toList = t₁.toList ++ '\n' :: t₂.toList := by
      simp
    rw [after, htext, Text.lines, hboth, List.foldl_append, List.foldl_cons]

end Scanner

/-! ## Texts that begin with a package -/

/-- Whether nothing is left of a line without its comment and the blanks around it. -/
def isVoid (line : List Char) : Bool :=
  (Text.trim (stripComment line)).isEmpty

/-- The package that a line names, without its comment and the blanks around it. -/
def declaredPackage? (line : List Char) : Option String :=
  packageName? (Text.trim (stripComment line))

/-- The first line that is not void names a package. -/
def BeginWithPackage (ls : List (List Char)) : Prop :=
  ∀ line ∈ ls.find? fun line => !isVoid line, (declaredPackage? line).isSome

namespace Scanner

variable {s : Scanner}

theorem feed_of_isVoid (hs : s.mode = .outside) {line : List Char} (h : isVoid line = true) :
    s.feed line = s := by
  rw [feed_eq_outside hs]
  apply outside_of_declare_none
  rw [List.isEmpty_iff.mp h]
  rfl

theorem feed_of_declaredPackage? (hs : s.IsBetween) {line : List Char} {name : String}
    (hline : isVoid line = false) (h : declaredPackage? line = some name) :
    s.feed line = { s with package := name } := by
  rw [feed_eq_outside hs.mode]
  apply outside_of_declare_none
  unfold declare
  split
  · rename_i hnil
    rw [isVoid, hnil] at hline
    exact absurd hline (by decide)
  · rename_i hwaiting
    rw [hs.pending] at hwaiting
    exact absurd hwaiting (by simp)
  · rw [declaredPackage?] at h
    simp only [h, ← hs.pending]

/-- Lines that begin with their package are read between two rules as they are from the start. -/
theorem blocks_foldl_feed (hs : s.IsBetween) {ls : List (List Char)}
    (h : BeginWithPackage ls) :
    (ls.foldl feed s).blocks = s.blocks ++ (ls.foldl feed start).blocks := by
  induction ls with
  | nil => simp [start]
  | cons line ls ih =>
      rw [List.foldl_cons, List.foldl_cons]
      cases hline : isVoid line with
      | true =>
          rw [BeginWithPackage, List.find?_cons_of_neg (by simp [hline])] at h
          rw [feed_of_isVoid hs.mode hline, feed_of_isVoid rfl hline, ih h]
      | false =>
          obtain ⟨name, hname⟩ := Option.isSome_iff_exists.mp (h line (by simp [hline]))
          have htrails : TrailsBetween s.blocks { start with package := name }
              { s with package := name } :=
            ⟨rfl, hs.mode, rfl, hs.pending, by simp [start]⟩
          rw [feed_of_declaredPackage? hs hline hname,
            feed_of_declaredPackage? ⟨rfl, rfl⟩ hline hname]
          exact ((Trails.between htrails).foldl_feed ls).blocks

end Scanner

/-- Text that follows on a new line leaves the blocks of the first text in place. If the first text
ends between two rules and the second one begins with its package, the blocks are those of the two
texts, one after the other. -/
theorem blocks_append_line (t₁ t₂ : String) :
    blocks t₁ <+: blocks (t₁ ++ "\n" ++ t₂) ∧
      ((Scanner.after t₁).IsBetween → BeginWithPackage (Text.lines t₂.toList) →
        blocks (t₁ ++ "\n" ++ t₂) = blocks t₁ ++ blocks t₂) := by
  obtain ⟨s, hs, hboth⟩ := Scanner.after_append_line t₁ t₂
  have hfirst : blocks t₁ = s.blocks := hs.blocks
  have htext : blocks (t₁ ++ "\n" ++ t₂) = ((Text.lines t₂.toList).foldl Scanner.feed s).blocks :=
    congrArg Scanner.blocks hboth
  rw [hfirst, htext]
  refine ⟨s.blocks_prefix_foldl_feed _, fun hbetween hpackage => ?_⟩
  have hbetween' : s.IsBetween := ⟨hs.mode ▸ hbetween.mode, hs.pending ▸ hbetween.pending⟩
  exact Scanner.blocks_foldl_feed hbetween' hpackage

/-- The first text ends in an open string and a carriage return, the second one in an open rule. -/
theorem blocks_append_line_open :
    let t₁ := "deny\x7b\x7d\n= \"\x7b\r"
    let t₂ := "# next\n\npackage b\nwarn\x7b\x7d\nwarn\x7b"
    (Scanner.after t₁).IsBetween ∧ BeginWithPackage (Text.lines t₂.toList) ∧
      blocks (t₁ ++ "\n" ++ t₂) = blocks t₁ ++ blocks t₂ ∧
      (blocks t₁).map Block.head = ["deny"] := by
  intro t₁ t₂
  have hrule : Scanner.start.feed "deny\x7b\x7d".toList =
      (Scanner.start.openRule ⟨"deny", none⟩).closeRule := by
    have hd : Scanner.start.declare (Text.trim (stripComment "deny\x7b\x7d".toList)) =
        (Scanner.start, some (⟨"deny", none⟩, ['}'])) := by rfl
    rw [Scanner.feed_eq_outside rfl, Scanner.outside_of_declare_some hd, Scanner.body, if_pos rfl,
      if_pos ⟨rfl, Nat.le_refl 1⟩, Scanner.outside_nil]
  have hjunk : (Scanner.start.openRule ⟨"deny", none⟩).closeRule.feed "= \"\x7b\r".toList =
      (Scanner.start.openRule ⟨"deny", none⟩).closeRule := by
    rw [Scanner.feed_eq_outside rfl]
    exact Scanner.outside_of_declare_none rfl
  have hafter : Scanner.after t₁ = (Scanner.start.openRule ⟨"deny", none⟩).closeRule := by
    have hlines : Text.lines t₁.toList = ["deny\x7b\x7d".toList, "= \"\x7b\r".toList] := by decide
    rw [Scanner.after, hlines, List.foldl_cons, List.foldl_cons, List.foldl_nil, hrule, hjunk]
  have hbetween : (Scanner.after t₁).IsBetween := by
    rw [hafter]
    exact ⟨rfl, rfl⟩
  have hpackage : BeginWithPackage (Text.lines t₂.toList) := by
    have hline : (Text.lines t₂.toList).find? (fun line => !isVoid line) =
        some "package b".toList := by decide
    rw [BeginWithPackage, hline]
    intro line h
    obtain rfl := Option.some.inj h
    decide
  have hblocks : blocks t₁ = (Scanner.start.openRule ⟨"deny", none⟩).closeRule.blocks :=
    congrArg Scanner.blocks hafter
  refine ⟨hbetween, hpackage, (blocks_append_line t₁ t₂).2 hbetween hpackage, ?_⟩
  rw [hblocks]
  rfl

end Guardrail.Rego
