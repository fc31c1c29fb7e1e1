import Guardrail.Text.Blank
import Guardrail.Text.Case
import Guardrail.Unicode.Age
import Guardrail.Unicode.Break
import Guardrail.Unicode.Folding
import Guardrail.Unicode.Property
import Guardrail.Unicode.ScriptExtension

/-!
# Sets of characters

The sets that a pattern names: ranges, classes of the character database, and what union,
intersection, difference, complement and the closure under letter case make of them. `has`
decides membership.
-/

namespace Guardrail.Pattern

/-- A named class of characters. -/
inductive NamedClass where
  | word
  /-- A binary property, by its long name. -/
  | property (name : String)
  /-- A general category or a group of them, by its short name. -/
  | category (name : String)
  | assigned
  /-- A script, by its short name. -/
  | script (name : String)
  /-- The characters used in a script, by its short name. -/
  | scriptExtension (name : String)
  /-- The characters of a version of the database. -/
  | age (version : String)
  /-- A class of the division into characters, words or sentences, by its short name. -/
  | graphemeBreak (name : String)
  | wordBreak (name : String)
  | sentenceBreak (name : String)
  deriving DecidableEq, Repr, Hashable

/-- The code points of a named class. -/
def NamedClass.ranges : NamedClass → List (Nat × Nat)
  | .word => Unicode.word
  | .property name => Unicode.rangesOfName Unicode.binaryProperties name
  | .category name => Unicode.categoryRanges name
  | .assigned => Unicode.complement (Unicode.normalize (Unicode.categoryRanges "Cn"))
  | .script name => Unicode.scriptRanges name
  | .scriptExtension name => Unicode.scriptExtensionRanges name
  | .age version => Unicode.ageRanges version
  | .graphemeBreak name => Unicode.rangesOfName Unicode.graphemeBreaks name
  | .wordBreak name => Unicode.rangesOfName Unicode.wordBreaks name
  | .sentenceBreak name => Unicode.rangesOfName Unicode.sentenceBreaks name

/-- Whether a code point belongs to a named class. -/
def NamedClass.has : NamedClass → Nat → Bool
  | .word, n => Unicode.inRanges Unicode.word n
  | .property name, n => Unicode.inRanges (Unicode.rangesOfName Unicode.binaryProperties name) n
  | .category name, n => Unicode.inCategory name (Unicode.categoryOf n)
  | .assigned, n => Unicode.categoryOf n ≠ "Cn"
  | .script name, n => Unicode.scriptOf n = name
  | .scriptExtension name, n => Unicode.isUsedIn name n
  | .age version, n => Unicode.isOfAge version n
  | .graphemeBreak name, n =>
    Unicode.inRanges (Unicode.rangesOfName Unicode.graphemeBreaks name) n
  | .wordBreak name, n => Unicode.inRanges (Unicode.rangesOfName Unicode.wordBreaks name) n
  | .sentenceBreak name, n =>
    Unicode.inRanges (Unicode.rangesOfName Unicode.sentenceBreaks name) n

/-- A set of code points. -/
inductive CharSet where
  | empty
  | range (first last : Nat)
  | named (name : NamedClass)
  | union (s t : CharSet)
  | inter (s t : CharSet)
  | diff (s t : CharSet)
  | symmDiff (s t : CharSet)
  | compl (s : CharSet)
  /-- The set and whatever differs from one of its members in case only. -/
  | fold (s : CharSet)
  /-- The same for the letters of ASCII. -/
  | foldAscii (s : CharSet)
  deriving DecidableEq, Repr, Hashable

namespace CharSet

/-- The set of one character. -/
def single (c : Char) : CharSet := .range c.toNat c.toNat

/-- The letter of ASCII that differs from a letter in case only. -/
def otherCase (n : Nat) : Nat :=
  if 65 ≤ n ∧ n ≤ 90 then n + 32 else if 97 ≤ n ∧ n ≤ 122 then n - 32 else n

/-- Whether a code point belongs to a set. -/
def has : CharSet → Nat → Bool
  | .empty, _ => false
  | .range first last, n => first ≤ n && n ≤ last
  | .named name, n => name.has n
  | .union s t, n => s.has n || t.has n
  | .inter s t, n => s.has n && t.has n
  | .diff s t, n => s.has n && !t.has n
  | .symmDiff s t, n => s.has n != t.has n
  | .compl s, n => !s.has n
  | .fold s, n => s.has n || (Unicode.caseVariants n).any s.has
  | .foldAscii s, n => s.has n || s.has (otherCase n)

/-- Ascending ranges together with whatever differs from a code point in them in case only. -/
def foldRanges (ranges : List (Nat × Nat)) : List (Nat × Nat) :=
  let targets := Unicode.foldings.filterMap fun (m, t) =>
    if Unicode.inRanges ranges m || Unicode.inRanges ranges t then some t else none
  let variants := Unicode.foldings.filterMap fun (m, t) =>
    if t ∈ targets then some (m, m) else none
  Unicode.normalize (ranges ++ variants ++ targets.map fun t => (t, t))

/-- The ascending ranges of a set. -/
def ranges : CharSet → List (Nat × Nat)
  | .empty => []
  | .range first last => [(first, last)]
  | .named name => Unicode.normalize name.ranges
  | .union s t => Unicode.union s.ranges t.ranges
  | .inter s t => Unicode.inter s.ranges t.ranges
  | .diff s t => Unicode.difference s.ranges t.ranges
  | .symmDiff s t => Unicode.symmetricDifference s.ranges t.ranges
  | .compl s => Unicode.complement s.ranges
  | .fold s => foldRanges s.ranges
  | .foldAscii s =>
    Unicode.normalize (s.ranges ++
      ((List.range 128).filter fun n => Unicode.inRanges s.ranges (otherCase n)).map
        fun n => (n, n))

/-- The union of a list of ranges. -/
def ofRanges (ranges : List (Nat × Nat)) : CharSet :=
  ranges.foldr (fun (first, last) s => .union (.range first last) s) .empty

/-- The set, or its complement. -/
def negatedIf (negated : Bool) (s : CharSet) : CharSet :=
  if negated then .compl s else s

/-- The class of ASCII characters with a name such as `alpha`. -/
def ascii? : String → Option CharSet
  | "alnum" => some (ofRanges [(48, 57), (65, 90), (97, 122)])
  | "alpha" => some (ofRanges [(65, 90), (97, 122)])
  | "ascii" => some (ofRanges [(0, 127)])
  | "blank" => some (ofRanges [(9, 9), (32, 32)])
  | "cntrl" => some (ofRanges [(0, 31), (127, 127)])
  | "digit" => some (ofRanges [(48, 57)])
  | "graph" => some (ofRanges [(33, 126)])
  | "lower" => some (ofRanges [(97, 122)])
  | "print" => some (ofRanges [(32, 126)])
  | "punct" => some (ofRanges [(33, 47), (58, 64), (91, 96), (123, 126)])
  | "space" => some (ofRanges [(9, 13), (32, 32)])
  | "upper" => some (ofRanges [(65, 90)])
  | "word" => some (ofRanges [(48, 57), (65, 90), (95, 95), (97, 122)])
  | "xdigit" => some (ofRanges [(48, 57), (65, 70), (97, 102)])
  | _ => none

/-- The name as properties are compared: small letters of ASCII, without a leading `is` and
without blanks, dashes and underscores. -/
def looseName (name : String) : String :=
  let small := (Text.lower name).toList
  let plain (cs : List Char) :=
    cs.filter fun c => c.toNat < 128 && !(c = ' ' || c = '_' || c = '-')
  match small with
  | 'i' :: 's' :: rest => if plain rest = ['c'] then "isc" else String.ofList (plain rest)
  | _ => String.ofList (plain small)

/-- The short name of a value in a table of names. -/
def canonical? (table : List (List String)) (loose : String) : Option String :=
  (table.find? fun names => names.any fun name => looseName name = loose).bind List.head?

/-- The binary property with a name. -/
def property? (loose : String) : Option CharSet :=
  (canonical? (Unicode.binaryProperties.map Prod.fst) loose).map fun name =>
    .named (.property name)

/-- The group of general categories with a name. -/
def category? (loose : String) : Option CharSet :=
  if loose = "any" then some (.range 0 0x10ffff)
  else if loose = "assigned" then some (.named .assigned)
  else if loose = "ascii" then some (.range 0 127)
  else (canonical? Unicode.categoryNames loose).map fun name => .named (.category name)

/-- The script with a name. -/
def script? (loose : String) : Option CharSet :=
  (canonical? Unicode.scriptNames loose).map fun name => .named (.script name)

/-- The class that a single name stands for: a property, a general category or a script. -/
def ofName? (name : String) : Option CharSet :=
  let loose := looseName name
  (property? loose).or ((category? loose).or (script? loose))

/-- The version with a name: its number, or its number without a dot behind a `V`. -/
def version? (loose : String) : Option String :=
  Unicode.versions.find? fun version =>
    version = loose || looseName ("V" ++ version.replace "." "_") = loose

/-- The class of the characters for which a property has a value. -/
def ofNameValue? (name value : String) : Option CharSet :=
  let value := looseName value
  let classOf (table : List (List String × List (Nat × Nat))) (make : String → NamedClass) :=
    (canonical? (table.map Prod.fst) value).map fun name => CharSet.named (make name)
  match looseName name with
  | "generalcategory" | "gc" => category? value
  | "script" | "sc" => script? value
  | "scriptextensions" | "scx" =>
    (canonical? Unicode.scriptNames value).map fun name => .named (.scriptExtension name)
  | "age" => (version? value).map fun version => .named (.age version)
  | "graphemeclusterbreak" | "gcb" => classOf Unicode.graphemeBreaks .graphemeBreak
  | "wordbreak" | "wb" => classOf Unicode.wordBreaks .wordBreak
  | "sentencebreak" | "sb" => classOf Unicode.sentenceBreaks .sentenceBreak
  | _ => none

end CharSet

end Guardrail.Pattern
