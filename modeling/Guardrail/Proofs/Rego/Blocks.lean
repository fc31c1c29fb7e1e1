import Guardrail.Proofs.Rego.Bodies
import Guardrail.Proofs.Rego.Heads

/-!
# Blocks of policy texts

A policy in a layout is scanned to exactly the blocks that its rules stand for, in their order.
-/

namespace Guardrail.Rego

/-! ## Drafts -/

namespace Draft

/-- The draft with a further part. -/
def add (d : Draft) : Part → Draft
  | .message m => { d with message? := some m }
  | .condition c => { d with conditions := d.conditions ++ [c] }
  | .unparsed s => { d with unparsed := d.unparsed ++ [s] }

theorem absorb_eq_add (d : Draft) (statement : List Char) :
    d.absorb statement = d.add (Part.ofStatement d.messageVariable statement) := by
  cases hm : Rego.message? d.messageVariable statement with
  | some m => simp [absorb, Part.ofStatement, hm, add]
  | none =>
      cases hc : condition? statement with
      | some c => simp [absorb, Part.ofStatement, hm, hc, add]
      | none => simp [absorb, Part.ofStatement, hm, hc, add]

theorem messageVariable_add (d : Draft) (part : Part) :
    (d.add part).messageVariable = d.messageVariable := by
  cases part <;> rfl

theorem absorbAll_eq_foldl_add (d : Draft) (statements : List StatementText) :
    d.absorbAll statements =
      (statements.map fun s => Part.ofStatement d.messageVariable s.chars).foldl add d := by
  induction statements generalizing d with
  | nil => rfl
  | cons s ss ih =>
      have htail := ih (d.absorb s.chars)
      rw [absorb_eq_add, messageVariable_add, ← absorb_eq_add] at htail
      rw [absorbAll, List.foldl_cons, List.map_cons, List.foldl_cons, ← absorb_eq_add]
      exact htail

/-- Parts that are added to a draft stand behind what it had, and the last message counts. -/
theorem toBlock_foldl_add (d : Draft) (parts : List Part) (package : String) :
    (parts.foldl add d).toBlock package =
      { package
        head := d.head
        conditions := d.conditions ++ parts.filterMap Part.condition?
        message? := (parts.filterMap Part.message?).getLast?.or d.message?
        unparsed := d.unparsed ++ parts.filterMap Part.unparsed? } := by
  induction parts generalizing d with
  | nil => simp [toBlock]
  | cons part parts ih =>
      rw [List.foldl_cons, ih]
      cases part with
      | message m =>
          simp [add, List.filterMap_cons, Part.condition?, Part.message?, Part.unparsed?,
            List.getLast?_cons]
      | condition c =>
          simp [add, List.filterMap_cons, Part.condition?, Part.message?, Part.unparsed?]
      | unparsed s =>
          simp [add, List.filterMap_cons, Part.condition?, Part.message?, Part.unparsed?]

end Draft

namespace RuleText

/-- The draft that the head opens. -/
def draft (r : RuleText) : Draft :=
  Draft.new r.readHead.name r.readHead.binding?

theorem toBlock_draft (r : RuleText) (package : String) :
    (r.draft.absorbAll r.statements).toBlock package = r.block package := by
  rw [Draft.absorbAll_eq_foldl_add, Draft.toBlock_foldl_add]
  simp [draft, Draft.new, readHead, block, parts, Draft.messageVariable]

end RuleText

/-! ## Lines of a head -/

namespace Scanner

variable {package : String} {bs : List Block}

/-- The scanner behind a head whose brace is expected on the next line. -/
def waiting (package : String) (bs : List Block) (h : Head) : Scanner :=
  { idle package bs with pending? := some h }

theorem feed_outside {s : Scanner} (hs : s.mode = .outside) {line : List Char} (h : IsTidy line) :
    s.feed line = s.outside line := by
  rw [feed_eq_outside hs, h.stripComment_eq]

theorem feed_blank : (idle package bs).feed [] = idle package bs := by
  rw [feed_outside rfl isTidy_nil, outside_nil]

/-- Outside rules a line is read without the margin in front of it. -/
theorem trim_margin_append (m : Margin) {line : List Char} (h : IsTidy line)
    (hhead : ∀ c ∈ line.head?, Text.isBlank c = false) : Text.trim (m.chars ++ line) = line := by
  rw [Text.trim_append_of_blank (fun _ hc => m.isBlank_of_mem hc), h.trim_eq hhead]

/-- A line that is not empty is declared by what it names, if no head is waiting. -/
theorem declare_idle {line : List Char} (hne : line ≠ []) :
    (idle package bs).declare line =
      match packageName? line with
      | some name => (idle name bs, none)
      | none =>
        match head? line with
        | some (h, some rest) => (idle package bs, some (h, rest))
        | some (h, none) => (waiting package bs h, none)
        | none => (idle package bs, none) := by
  unfold declare
  split
  · exact absurd rfl hne
  · rename_i hpending
    simp [idle, start] at hpending
  · rfl

/-! ## Rules -/

theorem start_eq_idle : start = idle "" [] := rfl

theorem feed_package {name : List Char} (h : (dottedName name).all isName = true)
    (ht : IsTidy ("package".toList ++ ' ' :: name)) :
    start.feed ("package".toList ++ ' ' :: name) = idle (String.ofList name) [] := by
  have hword : ∀ c ∈ ("package".toList ++ ' ' :: name).head?, Text.isBlank c = false := by
    intro c hc
    obtain rfl := Option.some.inj hc
    decide
  rw [start_eq_idle, feed_outside rfl ht]
  apply outside_of_declare_none
  rw [ht.trim_eq hword, declare_idle (by simp), packageName?_line h]

/-- What a head declares between two rules. -/
def declared (package : String) (bs : List Block) (h : Head) :
    Option (List Char) → Scanner × Option (Head × List Char)
  | some rest => (idle package bs, some (h, rest))
  | none => (waiting package bs h, none)

theorem declare_head (r : RuleText) {tail : List Char} {body? : Option (List Char)}
    (ht : IsTidy (r.headText ++ tail)) (hn : ∀ c ∈ tail.head?, isNameChar c = false)
    (ho : opening? (ifText r.hasIf ++ tail) = some body?) :
    (idle package bs).declare (Text.trim (r.beforeHead.chars ++ (r.headText ++ tail))) =
      declared package bs r.readHead body? := by
  rw [trim_margin_append r.beforeHead ht (r.not_isBlank_headText tail),
    declare_idle (r.headText_append_ne_nil tail), r.packageName?_headText hn,
    r.head?_headText hn ho]
  cases body? <;> rfl

theorem feed_head (r : RuleText) :
    (idle package bs).feed (r.beforeHead.chars ++ r.headText) =
      waiting package bs r.readHead := by
  have ht : IsTidy (r.headText ++ []) := by
    rw [List.append_nil]
    exact r.isTidy_headText
  have ho : opening? (ifText r.hasIf ++ []) = some none := by
    rw [List.append_nil, opening?_ifText]
  rw [← List.append_nil r.headText,
    feed_outside rfl (.append r.beforeHead.isQuiet ht (r.headText_append_ne_nil []))]
  exact outside_of_declare_none (declare_head r ht (by simp) ho)

theorem feed_brace (r : RuleText) {line : List Char} (hl : IsTidy line) :
    (waiting package bs r.readHead).feed (r.braceText ++ line) =
      (inside package bs r.draft 0 []).body .plain line := by
  have hbrace : IsTidy ('{' :: line) := .cons (by decide) (by decide) hl
  have hline := r.isTidy_braceText_append hl
  rw [RuleText.braceText, List.append_assoc, List.singleton_append] at hline ⊢
  have hdeclare : (waiting package bs r.readHead).declare
      (Text.trim (r.beforeBrace.chars ++ '{' :: line)) =
        (idle package bs, some (r.readHead, line)) := by
    rw [trim_margin_append r.beforeBrace hbrace (by simp; decide)]
    rfl
  rw [feed_outside rfl hline, outside_of_declare_some hdeclare]
  rfl

theorem feed_head_brace (r : RuleText) {line : List Char} (hl : IsTidy line) :
    (idle package bs).feed (r.beforeHead.chars ++ (r.headText ++ r.braceText) ++ line) =
      (inside package bs r.draft 0 []).body .plain line := by
  have ht := r.isTidy_headText.trans (r.isTidy_braceText_append hl)
  have hbrace : r.braceText ++ line = r.beforeBrace.chars ++ '{' :: line := by
    simp [RuleText.braceText]
  rw [List.append_assoc, List.append_assoc,
    feed_outside rfl (.append r.beforeHead.isQuiet ht (r.headText_append_ne_nil _))]
  rw [hbrace] at ht ⊢
  have hn : ∀ c ∈ (r.beforeBrace.chars ++ '{' :: line).head?, isNameChar c = false :=
    fun c hc => not_isNameChar_of_not_isWordChar (not_isWordChar_brace r.beforeBrace line c hc)
  have hdeclare : (idle package bs).declare
      (Text.trim (r.beforeHead.chars ++ (r.headText ++ (r.beforeBrace.chars ++ '{' :: line)))) =
        (idle package bs, some (r.readHead, line)) :=
    declare_head r ht hn (opening?_brace r.hasIf r.beforeBrace line)
  rw [outside_of_declare_some hdeclare]
  rfl

/-- The lines of a rule add its block. -/
theorem foldl_feed_rule (r : RuleText) :
    r.lines.foldl feed (idle package bs) = idle package (bs ++ [r.block package]) := by
  have hblank : (List.replicate r.blankLines []).foldl feed (idle package bs) = idle package bs := by
    induction r.blankLines with
    | zero => rfl
    | succ n ih => rw [List.replicate_succ, List.foldl_cons, feed_blank, ih]
  have hblock := r.toBlock_draft package
  rw [RuleText.lines, List.foldl_append, hblank]
  split
  · rw [List.foldl_cons, feed_head,
      foldl_feed_bodyLines fun line hl => feed_brace r hl]
    exact congrArg (fun b => idle package (bs ++ [b])) hblock
  · rw [foldl_feed_bodyLines fun line hl => feed_head_brace r hl]
    exact congrArg (fun b => idle package (bs ++ [b])) hblock

theorem foldl_feed_rules (rs : List RuleText) :
    (rs.flatMap RuleText.lines).foldl feed (idle package bs) =
      idle package (bs ++ rs.map fun r => r.block package) := by
  induction rs generalizing bs with
  | nil => simp
  | cons r rs ih => simp [List.foldl_append, foldl_feed_rule, ih]

end Scanner

/-! ## Policies -/

/-- A policy in a layout is read as one block for every rule, in their order: the package and the
head are those of the text, and every statement is the message, a condition or unparsed. -/
theorem blocks_text (t : PolicyText) :
    blocks t.text = t.rules.map fun r => r.block (String.ofList t.package) := by
  have hline : IsTidy ("package".toList ++ ' ' :: t.package) :=
    t.isTidy_of_mem_lines _ List.mem_cons_self
  rw [blocks, t.lines_text, PolicyText.lines, List.foldl_cons,
    Scanner.feed_package t.dotted hline, Scanner.foldl_feed_rules]
  simp [Scanner.idle]

/-- Two layouts of one rule. -/
example :
    let space : Margin := ⟨[' '], by simp⟩
    let statement : StatementText :=
      ⟨"x := [\"a;#\"]".toList, by decide, by decide, by decide, by decide⟩
    let onOneLine : RuleText :=
      { head := ⟨"deny".toList, by decide⟩
        head_ne := by decide
        binding := .bracketed ⟨"msg".toList, by decide⟩
        hasIf := false
        braceBelow := false
        blankLines := 0
        beforeHead := ⟨[], by simp⟩
        beforeBrace := space
        beforeClose := space
        firstRow := [(space, statement), (space, statement)]
        moreRows := [] }
    let onLines : RuleText :=
      { onOneLine with
        binding := .contained ⟨"msg".toList, by decide⟩
        hasIf := true
        braceBelow := true
        beforeBrace := ⟨[], by simp⟩
        beforeClose := ⟨[], by simp⟩
        firstRow := []
        moreRows := [[(space, statement)], [(space, statement)], []] }
    onOneLine.lines.map String.ofList =
        ["deny[msg] \x7b x := [\"a;#\"]; x := [\"a;#\"] \x7d"] ∧
      onLines.lines.map String.ofList =
        ["deny contains msg if", "\x7b", " x := [\"a;#\"]", " x := [\"a;#\"]", "\x7d"] := by
  decide

end Guardrail.Rego
