import Guardrail.Proofs.Rego.Blocks
import Guardrail.Proofs.Rego.Closing
import Guardrail.Rego.LocalRule

/-!
# A policy with one statement

The text of a policy that denies whatever passes one statement. It has one block and one rule, whose
condition is that of the statement.
-/

namespace Guardrail.Rego

/-! ## The text of the policy -/

/-- A policy that denies what passes a statement. -/
def denial (package statement : List Char) : String :=
  String.ofList ("package ".toList ++ (package ++
    ("\ndeny[msg] \x7b ".toList ++ (statement ++ " \x7d".toList))))

/-- The rule of the policy in its layout. -/
def denialRule (s : StatementText) : RuleText :=
  let space : Margin := ⟨[' '], by simp⟩
  { head := ⟨"deny".toList, by decide⟩
    head_ne := by decide
    binding := .bracketed ⟨"msg".toList, by decide⟩
    hasIf := false
    braceBelow := false
    blankLines := 0
    beforeHead := ⟨[], by simp⟩
    beforeBrace := space
    beforeClose := space
    firstRow := [(space, s)]
    moreRows := [] }

def denialLayout (package : List Char) (h : (dottedName package).all isName = true)
    (s : StatementText) : PolicyText :=
  { package, dotted := h, rules := [denialRule s], endsWithBreak := false }

theorem lines_denialRule (s : StatementText) :
    (denialRule s).lines = ["deny[msg] \x7b ".toList ++ (s.chars ++ " \x7d".toList)] := rfl

theorem text_denialLayout {package : List Char} (h : (dottedName package).all isName = true)
    (s : StatementText) : (denialLayout package h s).text = denial package s.chars := by
  have hlines : (denialLayout package h s).lines =
      ["package".toList ++ ' ' :: package,
        "deny[msg] \x7b ".toList ++ (s.chars ++ " \x7d".toList)] := by
    rw [PolicyText.lines, denialLayout, List.flatMap_cons, lines_denialRule]
    rfl
  have hpackage : "package ".toList = "package".toList ++ [' '] := by decide
  have hhead : "\ndeny[msg] \x7b ".toList = '\n' :: "deny[msg] \x7b ".toList := by decide
  have hjoin : ['\n'].intercalate (denialLayout package h s).lines =
      "package ".toList ++ (package ++
        ("\ndeny[msg] \x7b ".toList ++ (s.chars ++ " \x7d".toList))) := by
    rw [hlines, hpackage, hhead, List.intercalate_cons_cons, List.intercalate_singleton]
    simp only [List.append_assoc, List.cons_append, List.nil_append]
  have hending : (denialLayout package h s).endsWithBreak = false := rfl
  rw [PolicyText.text, hjoin, hending, if_neg Bool.false_ne_true, List.append_nil]
  rfl

/-! ## Its rule -/

/-- A statement that does not begin like a variable assigns nothing to it. -/
theorem message?_eq_none {variableName cs : List Char} (h : cs.head? ≠ variableName.head?) :
    message? variableName cs = none := by
  have hassigned : assigned? variableName cs = none := by
    simp only [assigned?, bind, Option.bind_eq_none_iff]
    rintro ⟨name, rest⟩ hname
    refine if_pos ?_
    rintro rfl
    cases cs with
    | nil => simp [name?] at hname
    | cons c cs =>
        simp only [name?] at hname
        split at hname
        · obtain ⟨rfl, -⟩ := Prod.mk.inj (Option.some.inj hname)
          simp at h
        · contradiction
  rw [message?, hassigned]
  rfl

/-- The block of the policy. -/
def denialBlock (package : List Char) (c : Condition) : Block :=
  { package := String.ofList package, head := "deny", conditions := [c], message? := none
    unparsed := [] }

theorem block_denialRule {s : StatementText} {c : Condition} (h : IsStatement s.chars c)
    (package : List Char) :
    (denialRule s).block (String.ofList package) = denialBlock package c := by
  have hmessage : message? "msg".toList s.chars = none := by
    -- no statement that is understood begins like the variable
    apply message?_eq_none
    obtain ⟨d, ds, hs, hd⟩ := h.exists_cons
    rw [hs]
    rintro hm
    obtain rfl := Option.some.inj hm
    exact absurd hd (by decide)
  have hpart : Part.ofStatement "msg".toList s.chars = .condition c := by
    rw [Part.ofStatement, hmessage, condition?_of_isStatement h]
  have hparts : (denialRule s).parts = [.condition c] := by
    rw [← hpart]
    rfl
  rw [RuleText.block, hparts]
  rfl

/-- At the end of a policy the scanner is between two rules. -/
theorem foldl_feed_policy (t : PolicyText) :
    t.lines.foldl Scanner.feed Scanner.start =
      Scanner.idle (String.ofList t.package)
        (t.rules.map fun r => r.block (String.ofList t.package)) := by
  have hline : IsTidy ("package".toList ++ ' ' :: t.package) :=
    t.isTidy_of_mem_lines _ List.mem_cons_self
  rw [PolicyText.lines, List.foldl_cons, Scanner.feed_package t.dotted hline,
    Scanner.foldl_feed_rules]
  rfl

theorem blocks_denial {package statement : List Char} {c : Condition}
    (hpackage : (dottedName package).all isName = true) (h : IsStatement statement c)
    (hbreak : '\n' ∉ statement) : blocks (denial package statement) = [denialBlock package c] := by
  let s := StatementText.ofStatement h hbreak
  have htext : denial package statement = (denialLayout package hpackage s).text :=
    (text_denialLayout hpackage s).symm
  have hblock : (denialRule s).block (String.ofList package) = denialBlock package c :=
    block_denialRule h package
  rw [htext, blocks, PolicyText.lines_text, foldl_feed_policy, ← hblock]
  rfl

/-- The rule of the policy. -/
def denialOf (package : List Char) (c : Condition) : LocalRule :=
  let id := (denialBlock package c).ruleId 1
  { id
    package := String.ofList package
    description := (denialBlock package c).description
    condition := c
    severity := .critical
    action := .deny
    message := id ++ " matched " ++ "deny" }

theorem rules_denial {package statement : List Char} {c : Condition}
    (hpackage : (dottedName package).all isName = true) (h : IsStatement statement c)
    (hbreak : '\n' ∉ statement) : rules (denial package statement) = [denialOf package c] := by
  have houtcome : (denialBlock package c).outcome? = some (.critical, .deny) := by
    have hhead : headMapping? "deny" = some (.critical, .deny) := by decide
    exact hhead
  have hrule : (denialBlock package c).toRule? 1 = some (denialOf package c) := by
    rw [Block.toRule?, houtcome]
    rfl
  rw [rules, blocks_denial hpackage h hbreak, lower, lowerFrom, List.count_nil, hrule]
  rfl

end Guardrail.Rego
