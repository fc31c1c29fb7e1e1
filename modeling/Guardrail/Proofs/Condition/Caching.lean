import Guardrail.Condition.Evaluation
import Guardrail.Proofs.Json.Children
import Mathlib.Data.List.Induction
import Mathlib.Data.List.Nodup

/-!
# Tests through the cache

What a pattern compiles to is kept while conditions test fields against it. The answers are those of
compiling every pattern afresh, and there are never more than `Cache.capacity` patterns to keep: the
next one drops all of them.
-/

namespace Guardrail

namespace Pattern.Cache

/-! ## Entries -/

/-- The cache keeps what patterns compile to, each pattern once, and not too many. -/
structure IsSound (compiler : String → Option Regex) (cache : Cache) : Prop where
  compiled : ∀ entry ∈ cache.entries, entry.2 = compiler entry.1
  nodup : (cache.entries.map Prod.fst).Nodup
  length_le : cache.entries.length ≤ capacity

/-- What becomes of the cache when a pattern is looked up. -/
inductive Recalls (compiler : String → Option Regex) (cache : Cache) (pattern : String) :
    Cache → Prop where
  | kept (h : (pattern, compiler pattern) ∈ cache.entries) : Recalls compiler cache pattern cache
  | added (h : pattern ∉ cache.entries.map Prod.fst) (hroom : cache.entries.length < capacity) :
      Recalls compiler cache pattern ⟨(pattern, compiler pattern) :: cache.entries⟩
  | renewed (h : pattern ∉ cache.entries.map Prod.fst) (hfull : cache.entries.length = capacity) :
      Recalls compiler cache pattern ⟨[(pattern, compiler pattern)]⟩

variable {compiler : String → Option Regex} {cache cache' : Cache} {pattern : String}

theorem isSound_empty (compiler : String → Option Regex) : IsSound compiler empty where
  compiled := List.forall_mem_nil _
  nodup := List.nodup_nil
  length_le := Nat.zero_le capacity

theorem IsSound.recalls (h : IsSound compiler cache) (hr : Recalls compiler cache pattern cache') :
    IsSound compiler cache' := by
  cases hr with
  | kept => exact h
  | added hnew hroom =>
      exact ⟨List.forall_mem_cons.mpr ⟨rfl, h.compiled⟩, List.nodup_cons.mpr ⟨hnew, h.nodup⟩, hroom⟩
  | renewed =>
      have hone : 1 ≤ capacity := by decide
      exact ⟨List.forall_mem_singleton.mpr rfl, List.pairwise_singleton _ pattern, hone⟩

/-- A lookup gives what the pattern compiles to, whether it is kept or not. -/
theorem lookup_spec (h : IsSound compiler cache) (pattern : String) :
    (cache.lookup compiler pattern).1 = compiler pattern ∧
      Recalls compiler cache pattern (cache.lookup compiler pattern).2 := by
  unfold lookup
  cases hl : cache.entries.lookup pattern with
  | some compiled? =>
      have hmem : (pattern, compiled?) ∈ cache.entries := by
        obtain ⟨front, back, hentries, -⟩ := List.lookup_eq_some_iff.mp hl
        simp [hentries]
      have hcompiled : compiled? = compiler pattern := h.compiled _ hmem
      exact ⟨hcompiled, .kept (hcompiled ▸ hmem)⟩
  | none =>
      have hnew : pattern ∉ cache.entries.map Prod.fst := by
        intro hmem
        obtain ⟨entry, hentry, rfl⟩ := List.mem_map.mp hmem
        simpa using List.lookup_eq_none_iff.mp hl entry hentry
      refine ⟨rfl, ?_⟩
      dsimp only [insert]
      split
      · rename_i hfull
        exact .renewed hnew (Nat.le_antisymm h.length_le hfull)
      · rename_i hroom
        exact .added hnew (Nat.lt_of_not_le hroom)

end Pattern.Cache

/-! ## Tests of fields -/

/-- A test of a field of a record against a pattern. -/
structure PatternTest where
  data : FlatRecord
  field : String
  pattern : String

namespace PatternTest

open Pattern (Cache Regex)

/-- The text of the field, if it has one. -/
def text? (t : PatternTest) : Option String :=
  (t.data.get? t.field).bind Json.scalarText?

/-- The answer when the pattern is compiled for this test. A field without a text does not match,
and neither does any field if the pattern does not compile. -/
def afresh (compiler : String → Option Regex) (t : PatternTest) : Bool :=
  t.text?.any (Pattern.found (compiler t.pattern))

/-- The answer given with the help of a cache, and the cache afterwards. The cache is asked only if
the field has a text. -/
def perform (compiler : String → Option Regex) (cache : Cache) (t : PatternTest) : Bool × Cache :=
  match t.text? with
  | some text => cache.test compiler t.pattern text
  | none => (false, cache)

/-- The answers to several tests one after another, and the cache afterwards. -/
def run (compiler : String → Option Regex) (cache : Cache) : List PatternTest → List Bool × Cache
  | [] => ([], cache)
  | t :: ts =>
    let (answer, cache) := t.perform compiler cache
    let (answers, cache) := run compiler cache ts
    (answer :: answers, cache)

/-- What becomes of a cache in a test. -/
inductive Leads (compiler : String → Option Regex) (t : PatternTest) (cache : Cache) :
    Cache → Prop where
  | unasked (h : t.text? = none) : Leads compiler t cache cache
  | asked {cache' : Cache} (h : t.text? ≠ none) (hr : cache.Recalls compiler t.pattern cache') :
      Leads compiler t cache cache'

variable {compiler : String → Option Regex} {cache cache' : Cache}

theorem Leads.isSound {t : PatternTest} (hl : t.Leads compiler cache cache')
    (h : cache.IsSound compiler) : cache'.IsSound compiler := by
  cases hl with
  | unasked => exact h
  | asked _ hr => exact h.recalls hr

/-- A pattern that is not in the cache comes to those that are, or takes their place if there is no
room. -/
theorem Leads.entries_of_notMem {t : PatternTest} (hl : t.Leads compiler cache cache')
    (ht : t.text? ≠ none) (hnew : t.pattern ∉ cache.entries.map Prod.fst) :
    (cache.entries.length < Cache.capacity →
      cache'.entries = (t.pattern, compiler t.pattern) :: cache.entries) ∧
    (cache.entries.length = Cache.capacity →
      cache'.entries = [(t.pattern, compiler t.pattern)]) := by
  cases hl with
  | unasked hnone => exact absurd hnone ht
  | asked _ hr =>
      cases hr with
      | kept hmem => exact absurd (List.mem_map_of_mem hmem) hnew
      | added _ hroom => exact ⟨fun _ => rfl, fun hfull => absurd hfull (Nat.ne_of_lt hroom)⟩
      | renewed _ hfull => exact ⟨fun hroom => absurd hfull (Nat.ne_of_lt hroom), fun _ => rfl⟩

theorem perform_spec (h : cache.IsSound compiler) (t : PatternTest) :
    (t.perform compiler cache).1 = t.afresh compiler ∧
      t.Leads compiler cache (t.perform compiler cache).2 := by
  unfold perform afresh
  cases ht : t.text? with
  | some text =>
      obtain ⟨hanswer, hrecalls⟩ := Cache.lookup_spec h t.pattern
      refine ⟨?_, .asked (by simp [ht]) hrecalls⟩
      rw [Option.any_some, ← hanswer]
      rfl
  | none => exact ⟨rfl, .unasked ht⟩

theorem isSound_run (h : cache.IsSound compiler) (ts : List PatternTest) :
    (run compiler cache ts).2.IsSound compiler := by
  induction ts generalizing cache with
  | nil => exact h
  | cons t ts ih => exact ih ((perform_spec h t).2.isSound h)

theorem answers_run (h : cache.IsSound compiler) (ts : List PatternTest) :
    (run compiler cache ts).1 = ts.map (afresh compiler) := by
  induction ts generalizing cache with
  | nil => rfl
  | cons t ts ih =>
      obtain ⟨hanswer, hleads⟩ := perform_spec h t
      rw [run, List.map_cons, ← hanswer, ← ih (hleads.isSound h)]

theorem cache_run_append (cache : Cache) (ts : List PatternTest) (t : PatternTest) :
    (run compiler cache (ts ++ [t])).2 = (t.perform compiler (run compiler cache ts).2).2 := by
  induction ts generalizing cache with
  | nil => rfl
  | cons u ts ih => exact ih (u.perform compiler cache).2

/-- Patterns of which none is met twice are all kept as long as there is room. -/
theorem entries_run_of_nodup {ts : List PatternTest} (htexts : ∀ t ∈ ts, t.text? ≠ none)
    (hnodup : (ts.map pattern).Nodup) (hroom : ts.length ≤ Cache.capacity) :
    (run compiler Cache.empty ts).2.entries =
      (ts.map fun t => (t.pattern, compiler t.pattern)).reverse := by
  induction ts using List.reverseRecOn with
  | nil => rfl
  | append_singleton ts t ih =>
      rw [List.map_append, List.map_singleton, List.nodup_append] at hnodup
      obtain ⟨hkept, -, hapart⟩ := hnodup
      rw [List.length_append, List.length_singleton] at hroom
      have hentries := ih (fun u hu => htexts u (List.mem_append_left _ hu)) hkept (by omega)
      have hleads := (perform_spec (isSound_run (Cache.isSound_empty compiler) ts) t).2
      have hnew : t.pattern ∉ (run compiler Cache.empty ts).2.entries.map Prod.fst := by
        rw [hentries, List.map_reverse, List.mem_reverse, List.map_map]
        exact fun hmem => hapart _ hmem _ (List.mem_singleton_self _) rfl
      have hlength : (run compiler Cache.empty ts).2.entries.length < Cache.capacity := by
        rw [hentries, List.length_reverse, List.length_map]
        omega
      rw [cache_run_append, (hleads.entries_of_notMem (htexts t (by simp)) hnew).1 hlength, hentries]
      simp

/-- The answer of the condition that makes the test. -/
theorem afresh_compile? (t : PatternTest) (view? : Option ResourceView) :
    t.afresh Pattern.compile? = Condition.holds t.data view? (.matches t.field t.pattern) := by
  rw [Condition.holds]
  rfl

/-- Tests that share a cache are answered as if each had compiled its pattern, and so as the
conditions say. After any of them the cache keeps what patterns compile to, at most 1024 of them, and
the next test leads from there. -/
theorem answers_and_leads_run (compiler : String → Option Regex) (ts : List PatternTest) :
    (run compiler Cache.empty ts).1 = ts.map (afresh compiler) ∧
      (∀ view?, (run Pattern.compile? Cache.empty ts).1 =
        ts.map fun t => Condition.holds t.data view? (.matches t.field t.pattern)) ∧
      ∀ n, let cache := (run compiler Cache.empty (ts.take n)).2
        cache.IsSound compiler ∧ cache.entries.length ≤ 1024 ∧
          ∀ t, ts[n]? = some t →
            t.Leads compiler cache (run compiler Cache.empty (ts.take (n + 1))).2 := by
  have hempty (compiler : String → Option Regex) : Cache.empty.IsSound compiler :=
    Cache.isSound_empty compiler
  refine ⟨answers_run (hempty compiler) ts, fun view? => ?_, fun n => ?_⟩
  · rw [answers_run (hempty Pattern.compile?) ts]
    exact List.map_congr_left fun t _ => t.afresh_compile? view?
  · have hsound := isSound_run (hempty compiler) (ts.take n)
    refine ⟨hsound, hsound.length_le, fun t ht => ?_⟩
    rw [List.take_add_one, ht, Option.toList_some, cache_run_append]
    exact (perform_spec hsound t).2

/-- The numbers up to 1024 are one pattern too many: the last finds the cache full, and is alone in it
afterwards. -/
theorem answers_and_leads_beyond_capacity :
    let compiler (_ : String) : Option Regex := none
    let t (i : Nat) : PatternTest := ⟨⟨[("name", .text "prod")]⟩, "name", Decimal.digitText i⟩
    let ts := (List.range 1025).map t
    let cache (n : Nat) := (run compiler Cache.empty (ts.take n)).2
    ts[1024]? = some (t 1024) ∧
      (∀ answer ∈ (run compiler Cache.empty ts).1, answer = false) ∧
      (cache 1024).entries.length = 1024 ∧
      (cache 1025).entries = [("1024", none)] := by
  intro compiler t ts cache
  obtain ⟨hanswers, -, hcaches⟩ := answers_and_leads_run compiler ts
  have htexts (n : Nat) : ∀ u ∈ (List.range n).map t, u.text? ≠ none := by
    simp [t, text?, FlatRecord.get?, Json.scalarText?]
  have hpatterns (n : Nat) : (((List.range n).map t).map pattern).Nodup := by
    rw [List.map_map]
    exact List.nodup_range.map Decimal.digitText_injective
  have hlast : ts[1024]? = some (t 1024) := by
    rw [List.getElem?_map, List.getElem?_range (by decide), Option.map_some]
  have htake : ts.take 1024 = (List.range 1024).map t := by
    rw [← List.map_take, List.take_range, Nat.min_eq_left (by decide)]
  have hroom : ((List.range 1024).map t).length ≤ Cache.capacity := by
    rw [List.length_map, List.length_range]
    decide
  have hkept : (run compiler Cache.empty ((List.range 1024).map t)).2.entries =
      (((List.range 1024).map t).map fun u => (u.pattern, compiler u.pattern)).reverse :=
    entries_run_of_nodup (htexts 1024) (hpatterns 1024) hroom
  have hcache : cache 1024 = (run compiler Cache.empty ((List.range 1024).map t)).2 :=
    congrArg (fun us => (run compiler Cache.empty us).2) htake
  rw [← hcache] at hkept
  have hfull : (cache 1024).entries.length = 1024 := by
    rw [hkept, List.length_reverse, List.length_map, List.length_map, List.length_range]
  have hnew : (t 1024).pattern ∉ (cache 1024).entries.map Prod.fst := by
    intro hmem
    rw [hkept, List.map_reverse, List.mem_reverse, List.map_map, List.map_map] at hmem
    obtain ⟨i, hi, hpattern⟩ := List.mem_map.mp hmem
    obtain rfl : i = 1024 := Decimal.digitText_injective hpattern
    exact absurd (List.mem_range.mp hi) (by decide)
  refine ⟨hlast, ?_, hfull, ?_⟩
  · rw [hanswers]
    intro answer hanswer
    obtain ⟨u, -, rfl⟩ := List.mem_map.mp hanswer
    rw [afresh]
    cases u.text? <;> rfl
  · have hleads : (t 1024).Leads compiler (cache 1024) (cache 1025) := (hcaches 1024).2.2 _ hlast
    have htext : (t 1024).text? ≠ none := htexts 1025 _ (List.mem_of_getElem? hlast)
    have hentries := (hleads.entries_of_notMem htext hnew).2 hfull
    have hname : Decimal.digitText 1024 = "1024" := by decide
    rw [hentries, ← hname]

end PatternTest

end Guardrail
