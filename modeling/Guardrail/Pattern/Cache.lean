import Guardrail.Pattern.Automaton
import Guardrail.Pattern.Reading

/-!
# Compiled patterns

A pattern compiles to an expression unless it denotes none or its automaton is too large. What a
pattern compiles to, a failure included, is kept for later use; when `capacity` patterns are kept,
all of them are dropped before the next one is added.
-/

namespace Guardrail.Pattern

/-- The expression of a pattern that is well formed and not too large. -/
def compile? (pattern : String) : Option Regex :=
  (Regex.ofPattern? pattern).filter Regex.fits

/-- Whether a pattern matches some part of a text; a pattern that does not compile matches
nothing. -/
def found (compiled? : Option Regex) (text : String) : Bool :=
  match compiled? with
  | some r => r.occursIn text
  | none => false

/-- Whether a pattern matches some part of a text. -/
def test (pattern text : String) : Bool :=
  found (compile? pattern) text

/-- What patterns compiled to. -/
structure Cache where
  entries : List (String × Option Regex)
  deriving Repr

namespace Cache

/-- The number of patterns that are kept at most. -/
def capacity : Nat := 1024

/-- The cache that keeps nothing. -/
def empty : Cache := ⟨[]⟩

/-- The cache with one more pattern. -/
def insert (cache : Cache) (pattern : String) (compiled? : Option Regex) : Cache :=
  if capacity ≤ cache.entries.length then ⟨[(pattern, compiled?)]⟩
  else ⟨(pattern, compiled?) :: cache.entries⟩

/-- What a pattern compiles to under a given compiler, taken from the cache if it is there, and the
cache afterwards. -/
def lookup (compiler : String → Option Regex) (cache : Cache) (pattern : String) :
    Option Regex × Cache :=
  match cache.entries.lookup pattern with
  | some compiled? => (compiled?, cache)
  | none =>
    let compiled? := compiler pattern
    (compiled?, cache.insert pattern compiled?)

/-- Whether a pattern matches some part of a text, and the cache afterwards. -/
def test (compiler : String → Option Regex) (cache : Cache) (pattern text : String) :
    Bool × Cache :=
  let (compiled?, cache) := cache.lookup compiler pattern
  (found compiled? text, cache)

end Cache

end Guardrail.Pattern
