import Guardrail.Proofs.Rego.Comments
import Mathlib.Logic.Relation

/-!
# Moments of a scan

A scan passes from one character to the next and from one line to the next. Its moments lead to what
the scanner makes of every line, and all of them lead to the same end.
-/

namespace Guardrail.Rego

namespace Scanner

/-- Where the scanner stands in a text. -/
inductive Place where
  /-- Between two lines. -/
  | lineEnd
  /-- Outside all rules, with this left of the line. -/
  | outside (rest : List Char)
  /-- In the body of a rule, with `front` read of the line since the body began and `rest` left. -/
  | body (front rest : List Char)

/-- A moment of a scan, with the lines that are still to come. -/
structure Moment where
  scanner : Scanner
  place : Place
  lines : List (List Char)

namespace Moment

/-- The next moment of a scan. -/
inductive Follows : Moment → Moment → Prop where
  | lineOutside {s : Scanner} {line : List Char} {lines : List (List Char)}
      (hs : s.mode = .outside) :
      Follows ⟨s, .lineEnd, line :: lines⟩ ⟨s, .outside (stripComment line), lines⟩
  | lineBody {s : Scanner} {line : List Char} {lines : List (List Char)}
      (hs : s.mode ≠ .outside) :
      Follows ⟨s, .lineEnd, line :: lines⟩ ⟨s, .body [] (stripComment line), lines⟩
  | declared {s s' : Scanner} {line : List Char} {lines : List (List Char)}
      (hd : s.declare (Text.trim line) = (s', none)) :
      Follows ⟨s, .outside line, lines⟩ ⟨s', .lineEnd, lines⟩
  | opened {s s' : Scanner} {head : Head} {line rest : List Char} {lines : List (List Char)}
      (hd : s.declare (Text.trim line) = (s', some (head, rest))) :
      Follows ⟨s, .outside line, lines⟩ ⟨s'.openRule head, .body [] rest, lines⟩
  | ended {s : Scanner} {front : List Char} {lines : List (List Char)} :
      Follows ⟨s, .body front [], lines⟩ ⟨s.endLine, .lineEnd, lines⟩
  | quoted {s : Scanner} {c : Char} {front rest : List Char} {lines : List (List Char)}
      (hq : Quoting.behind front ≠ .plain) :
      Follows ⟨s, .body front (c :: rest), lines⟩ ⟨s.push c, .body (front ++ [c]) rest, lines⟩
  | plain {s : Scanner} {c : Char} {front rest : List Char} {lines : List (List Char)}
      (hq : Quoting.behind front = .plain) (hc : ¬(c = '}' ∧ s.depth ≤ 1)) :
      Follows ⟨s, .body front (c :: rest), lines⟩ ⟨s.plain c, .body (front ++ [c]) rest, lines⟩
  | closed {s : Scanner} {front rest : List Char} {lines : List (List Char)}
      (hq : Quoting.behind front = .plain) (hdepth : s.depth ≤ 1) :
      Follows ⟨s, .body front ('}' :: rest), lines⟩ ⟨s.closeRule, .outside rest, lines⟩

/-- Several moments later. -/
abbrev Reaches : Moment → Moment → Prop :=
  Relation.ReflTransGen Follows

/-- A moment of the scan of a text. -/
def Occurs (text : String) (m : Moment) : Prop :=
  Reaches ⟨start, .lineEnd, Text.lines text.toList⟩ m

/-- The scanner at the end of the text. -/
def finish (m : Moment) : Scanner :=
  match m.place with
  | .lineEnd => m.lines.foldl feed m.scanner
  | .outside rest => m.lines.foldl feed (m.scanner.outside rest)
  | .body front rest => m.lines.foldl feed (m.scanner.body (Quoting.behind front) rest)

end Moment

end Scanner

theorem Quoting.behind_append (front : List Char) (c : Char) :
    Quoting.behind (front ++ [c]) = (Quoting.behind front).next c := by
  rw [behind, List.foldl_append, List.foldl_cons, List.foldl_nil, behind]

namespace Scanner

namespace Moment

variable {m m' : Moment}

/-- A scan goes on until no line is left. -/
theorem exists_follows (m : Moment) : m.place = .lineEnd ∧ m.lines = [] ∨ ∃ m', m.Follows m' := by
  obtain ⟨s, place, lines⟩ := m
  cases place with
  | lineEnd =>
      cases lines with
      | nil => exact .inl ⟨rfl, rfl⟩
      | cons line lines =>
          by_cases hs : s.mode = .outside
          · exact .inr ⟨_, .lineOutside hs⟩
          · exact .inr ⟨_, .lineBody hs⟩
  | outside line =>
      cases hd : s.declare (Text.trim line) with
      | mk s' opened? =>
          cases opened? with
          | none => exact .inr ⟨_, .declared hd⟩
          | some opened => exact .inr ⟨_, .opened hd⟩
  | body front rest =>
      cases rest with
      | nil => exact .inr ⟨_, .ended⟩
      | cons c rest =>
          by_cases hq : Quoting.behind front = .plain
          · by_cases hc : c = '}' ∧ s.depth ≤ 1
            · obtain ⟨rfl, hdepth⟩ := hc
              exact .inr ⟨_, .closed hq hdepth⟩
            · exact .inr ⟨_, .plain hq hc⟩
          · exact .inr ⟨_, .quoted hq⟩

theorem Follows.finish_eq (hm : m.Follows m') : m'.finish = m.finish := by
  cases hm with
  | lineOutside hs => simp only [finish, List.foldl_cons, feed_eq_outside hs]
  | lineBody hs =>
      simp only [finish, List.foldl_cons, feed_eq_body hs, Quoting.behind, List.foldl_nil]
  | declared hd => simp only [finish, outside_of_declare_none hd]
  | opened hd => simp only [finish, outside_of_declare_some hd, Quoting.behind, List.foldl_nil]
  | ended => simp only [finish, body_end]
  | quoted hq => simp only [finish, Quoting.behind_append, body, if_neg hq]
  | plain hq hc => simp only [finish, Quoting.behind_append, hq, body, if_pos, if_neg hc]
  | closed hq hdepth => simp only [finish, hq, body, if_pos, hdepth, and_self]

theorem finish_of_reaches (h : m.Reaches m') : m'.finish = m.finish := by
  induction h with
  | refl => rfl
  | tail _ hm ih => rw [hm.finish_eq, ih]

/-- The moments lead to the end of a line, with what the scanner makes of the line. The induction is
on the mutual recursion of the two parts of the scanner. -/
theorem reaches_lineEnd (lines : List (List Char)) :
    (∀ (s : Scanner) line, Reaches ⟨s, .outside line, lines⟩ ⟨s.outside line, .lineEnd, lines⟩) ∧
      ∀ (s : Scanner) q line front, Quoting.behind front = q →
        Reaches ⟨s, .body front line, lines⟩ ⟨s.body q line, .lineEnd, lines⟩ := by
  refine outside.mutual_induct
    (fun s line => Reaches ⟨s, .outside line, lines⟩ ⟨s.outside line, .lineEnd, lines⟩)
    (fun s q line => ∀ front, Quoting.behind front = q →
      Reaches ⟨s, .body front line, lines⟩ ⟨s.body q line, .lineEnd, lines⟩)
    ?declared ?opened ?ended ?closed ?plain ?quoted
  case declared =>
    intro s line s' hd
    rw [outside_of_declare_none hd]
    exact .single (.declared hd)
  case opened =>
    intro s line s' head rest hd _ _ ih
    rw [outside_of_declare_some hd]
    exact .head (.opened hd) (ih [] rfl)
  case ended =>
    intro s q front _
    rw [body_end]
    exact .single .ended
  case closed =>
    intro s c rest hc ih front hq
    obtain ⟨rfl, hdepth⟩ := hc
    rw [body, if_pos rfl, if_pos ⟨rfl, hdepth⟩]
    exact .head (.closed hq hdepth) ih
  case plain =>
    intro s c rest hc ih front hq
    rw [body, if_pos rfl, if_neg hc]
    exact .head (.plain hq hc) (ih _ (by rw [Quoting.behind_append, hq]))
  case quoted =>
    intro s q c rest hq ih front hfront
    rw [body, if_neg hq]
    exact .head (.quoted (hfront ▸ hq)) (ih _ (by rw [Quoting.behind_append, hfront]))

theorem reaches_feed (s : Scanner) (line : List Char) (lines : List (List Char)) :
    Reaches ⟨s, .lineEnd, line :: lines⟩ ⟨s.feed line, .lineEnd, lines⟩ := by
  obtain ⟨houtside, hbody⟩ := reaches_lineEnd lines
  by_cases hs : s.mode = .outside
  · rw [feed_eq_outside hs]
    exact .head (.lineOutside hs) (houtside _ _)
  · rw [feed_eq_body hs]
    exact .head (.lineBody hs) (hbody _ _ _ _ rfl)

theorem reaches_foldl_feed (s : Scanner) (before rest : List (List Char)) :
    Reaches ⟨s, .lineEnd, before ++ rest⟩ ⟨before.foldl feed s, .lineEnd, rest⟩ := by
  induction before generalizing s with
  | nil => exact .refl
  | cons line before ih => exact (reaches_feed s line _).trans (ih _)

end Moment

end Scanner

end Guardrail.Rego
