import Guardrail.Proofs.Compliance.Tallies
import Mathlib.Algebra.Order.Floor.Ring
import Mathlib.Data.Rat.Floor
import Mathlib.Tactic.Linarith
import Mathlib.Tactic.NormNum
import Mathlib.Tactic.Positivity

/-!
# Scores in exact arithmetic

The score of a summary is the share of its applicable findings that have passed, in percent to one
decimal place. It moves with the findings, but the last place hides those that did not pass if they
are no more than one in two thousand.
-/

namespace Guardrail.Compliance

/-! ## Shares -/

/-- The share of the applicable findings that have passed; all, if none is applicable. -/
def share (passed applicable : ℕ) : ℚ :=
  if applicable = 0 then 1 else passed / applicable

/-- A share in percent to one decimal place, a half going up. -/
def percent (x : ℚ) : ℚ :=
  ⌊1000 * x + 1 / 2⌋ / 10

theorem share_zero_right (passed : ℕ) : share passed 0 = 1 :=
  if_pos rfl

theorem share_nonneg (passed applicable : ℕ) : 0 ≤ share passed applicable := by
  unfold share
  split
  · exact zero_le_one
  · positivity

theorem share_le_one {passed applicable : ℕ} (h : passed ≤ applicable) :
    share passed applicable ≤ 1 := by
  unfold share
  split
  · exact le_rfl
  · exact div_le_one_of_le₀ (Nat.cast_le.mpr h) (Nat.cast_nonneg _)

/-- Shares compare as their products across; where nothing is applicable the other one has to be
full. -/
theorem share_le_share {p a q b : ℕ} (hp : p ≤ a) (hfull : a = 0 → b ≤ q) (h : p * b ≤ q * a) :
    share p a ≤ share q b := by
  rcases Nat.eq_zero_or_pos b with rfl | hb
  · rw [share_zero_right]
    exact share_le_one hp
  have hb' : (0 : ℚ) < b := Nat.cast_pos.mpr hb
  rcases Nat.eq_zero_or_pos a with rfl | ha
  · rw [share_zero_right, share, if_neg hb.ne', one_le_div hb']
    exact Nat.cast_le.mpr (hfull rfl)
  · have ha' : (0 : ℚ) < a := Nat.cast_pos.mpr ha
    rw [share, share, if_neg ha.ne', if_neg hb.ne', div_le_div_iff₀ ha' hb']
    exact_mod_cast h

theorem share_lt_iff {p a : ℕ} : share p a < 1999 / 2000 ↔ 2000 * p < 1999 * a := by
  rcases Nat.eq_zero_or_pos a with rfl | ha
  · rw [share_zero_right]
    norm_num
  · have ha' : (0 : ℚ) < a := Nat.cast_pos.mpr ha
    rw [share, if_neg ha.ne', div_lt_div_iff₀ ha' (by norm_num), mul_comm (p : ℚ)]
    exact_mod_cast Iff.rfl

/-! ## Percent -/

theorem percent_zero : percent 0 = 0 := by
  norm_num [percent]

theorem percent_one : percent 1 = 100 := by
  norm_num [percent]

theorem percent_mono {x y : ℚ} (h : x ≤ y) : percent x ≤ percent y := by
  have hfloor : ⌊1000 * x + 1 / 2⌋ ≤ ⌊1000 * y + 1 / 2⌋ := Int.floor_mono (by linarith)
  have hcast : (⌊1000 * x + 1 / 2⌋ : ℚ) ≤ ⌊1000 * y + 1 / 2⌋ := Int.cast_le.mpr hfloor
  exact div_le_div_of_nonneg_right hcast (by norm_num)

theorem percent_lt_iff {x : ℚ} : percent x < 100 ↔ x < 1999 / 2000 := by
  have hfloor : (⌊1000 * x + 1 / 2⌋ : ℚ) < 100 * 10 ↔ ⌊1000 * x + 1 / 2⌋ < 1000 := by
    norm_num
    norm_cast
  rw [percent, div_lt_iff₀ (by norm_num), hfloor, Int.floor_lt]
  push_cast
  constructor <;> intro h <;> linarith

theorem roundRat_of_nonneg {x : ℚ} (h : 0 ≤ x) : Arithmetic.roundRat x = ⌊x + 1 / 2⌋ := by
  rw [Arithmetic.roundRat, if_neg (not_lt.mpr h)]
  rfl

theorem score_rat (passed total idle : ℕ) :
    score .rat passed total idle = percent (share passed (total - idle)) := by
  rw [score, share]
  split
  · exact percent_one.symm
  · have hnonneg : (0 : ℚ) ≤ passed / (total - idle : ℕ) * 100 * 10 := by positivity
    have hpercent : (1000 * (passed / (total - idle : ℕ)) : ℚ) =
        passed / (total - idle : ℕ) * 100 * 10 := by ring
    rw [percent, hpercent, ← roundRat_of_nonneg hnonneg]
    rfl

/-! ## Findings -/

/-- How many findings have passed. -/
def passedIn (fs : List Finding) : ℕ :=
  fs.countP (·.status = .pass)

/-- How many findings have failed or given a warning. -/
def flawedIn (fs : List Finding) : ℕ :=
  fs.countP fun f => f.status = .fail ∨ f.status = .warning

/-- How many findings have any other status than not applicable. -/
def applicableIn (fs : List Finding) : ℕ :=
  fs.countP (·.status ≠ .notApplicable)

theorem flawed_iff {s : Status} :
    s = .fail ∨ s = .warning ↔ s ≠ .pass ∧ s ≠ .notApplicable := by
  cases s <;> decide

theorem applicableIn_eq (fs : List Finding) : applicableIn fs = passedIn fs + flawedIn fs := by
  unfold applicableIn passedIn flawedIn
  induction fs with
  | nil => rfl
  | cons f fs ih =>
      rw [List.countP_cons, List.countP_cons, List.countP_cons, ih]
      cases f.status <;> simp <;> omega

theorem passedIn_le (fs : List Finding) : passedIn fs ≤ applicableIn fs := by
  rw [applicableIn_eq]
  exact Nat.le_add_right _ _

theorem scoreIn_rat (framework : Framework) (controls : ℕ) (fs : List Finding) :
    (Summary.ofFindings framework controls fs).scoreIn .rat =
      percent (share (passedIn fs) (applicableIn fs)) := by
  have hcounts := Tally.counts_ofFindings fs
  have hpassed : (Tally.ofFindings fs).passed = passedIn fs := hcounts.status .pass
  have hidle : (Tally.ofFindings fs).notApplicable = fs.countP (·.status = .notApplicable) :=
    hcounts.status .notApplicable
  have hlength : fs.length = fs.countP (·.status = .notApplicable) + applicableIn fs := by
    rw [applicableIn, List.length_eq_countP_add_countP (·.status = .notApplicable)]
    simp only [decide_eq_true_eq, ne_eq, decide_not]
  have happlicable : fs.length - (Tally.ofFindings fs).notApplicable = applicableIn fs := by
    omega
  rw [Summary.scoreIn, score_rat, Summary.ofFindings, hpassed, happlicable]

/-! ## What a score shows -/

/-- What a score does when findings are put in another order, added or changed. -/
structure FollowsFindings (score : List Finding → ℚ) : Prop where
  nonneg : ∀ fs, 0 ≤ score fs
  le_hundred : ∀ fs, score fs ≤ 100
  reordered : ∀ fs gs : List Finding, fs.Perm gs → score fs = score gs
  /-- Findings that are not applicable may be added or taken away anywhere. -/
  idle : ∀ front idle back : List Finding, (∀ f ∈ idle, f.status = .notApplicable) →
    score (front ++ idle ++ back) = score (front ++ back)
  passed : ∀ (front : List Finding) (f : Finding) (back : List Finding), f.status = .pass →
    score (front ++ back) ≤ score (front ++ f :: back)
  mended : ∀ (front : List Finding) (f f' : Finding) (back : List Finding),
    f.status = .fail ∨ f.status = .warning → f'.status = .pass →
    score (front ++ f :: back) ≤ score (front ++ f' :: back)
  flawed : ∀ (front : List Finding) (f : Finding) (back : List Finding),
    f.status = .fail ∨ f.status = .warning →
    score (front ++ f :: back) ≤ score (front ++ back)

theorem passedIn_insert (front : List Finding) (f : Finding) (back : List Finding) :
    passedIn (front ++ f :: back) =
      passedIn (front ++ back) + if f.status = .pass then 1 else 0 := by
  simp only [passedIn, List.countP_append, List.countP_cons, decide_eq_true_eq, Nat.add_assoc]

theorem applicableIn_insert (front : List Finding) (f : Finding) (back : List Finding) :
    applicableIn (front ++ f :: back) =
      applicableIn (front ++ back) + if f.status ≠ .notApplicable then 1 else 0 := by
  simp only [applicableIn, List.countP_append, List.countP_cons, decide_eq_true_eq, Nat.add_assoc]

theorem followsFindings_percent :
    FollowsFindings fun fs => percent (share (passedIn fs) (applicableIn fs)) where
  nonneg := by
    intro fs
    rw [← percent_zero]
    exact percent_mono (share_nonneg _ _)
  le_hundred := by
    intro fs
    rw [← percent_one]
    exact percent_mono (share_le_one (passedIn_le fs))
  reordered := by
    intro fs gs h
    simp only [passedIn, applicableIn, h.countP_eq]
  idle := by
    intro front idle back hidle
    have hpassed : idle.countP (·.status = .pass) = 0 := by
      refine List.countP_eq_zero.mpr fun f hf => ?_
      rw [hidle f hf]
      decide
    have happlicable : idle.countP (·.status ≠ .notApplicable) = 0 := by
      refine List.countP_eq_zero.mpr fun f hf => ?_
      rw [hidle f hf]
      decide
    simp only [passedIn, applicableIn, List.countP_append, hpassed, happlicable, Nat.add_zero]
  passed := by
    intro front f back hf
    have hle := passedIn_le (front ++ back)
    refine percent_mono ?_
    rw [passedIn_insert, applicableIn_insert, hf, if_pos rfl, if_pos (by decide)]
    refine share_le_share hle (fun hnone => by omega) ?_
    rw [Nat.mul_add_one, Nat.add_one_mul]
    exact Nat.add_le_add_left hle _
  mended := by
    intro front f f' back hf hf'
    have hle := passedIn_le (front ++ back)
    obtain ⟨hpass, hidle⟩ := flawed_iff.mp hf
    refine percent_mono ?_
    rw [passedIn_insert, passedIn_insert, applicableIn_insert, applicableIn_insert, hf',
      if_neg hpass, if_pos rfl, if_pos hidle, if_pos (by decide)]
    exact share_le_share (Nat.le_succ_of_le hle) (fun hnone => by omega)
      (Nat.mul_le_mul_right _ (Nat.le_succ _))
  flawed := by
    intro front f back hf
    have hle := passedIn_le (front ++ back)
    obtain ⟨hpass, hidle⟩ := flawed_iff.mp hf
    refine percent_mono ?_
    rw [passedIn_insert, applicableIn_insert, if_neg hpass, if_pos hidle]
    exact share_le_share (Nat.le_succ_of_le hle) (fun hnone => by omega)
      (Nat.mul_le_mul_left _ (Nat.le_succ _))

/-- The counters of a summary are the numbers of its findings, and its score in exact arithmetic
follows them. -/
theorem Summary.counts_and_followsFindings (framework : Framework) (controls : ℕ) :
    (∀ fs, (Summary.ofFindings framework controls fs).Counts fs) ∧
      FollowsFindings fun fs => (Summary.ofFindings framework controls fs).scoreIn .rat := by
  refine ⟨Summary.counts_ofFindings framework controls, ?_⟩
  rw [funext (scoreIn_rat framework controls)]
  exact followsFindings_percent

/-- A full score is lost as soon as more than one in two thousand of the applicable findings have
not passed. If nothing else was found than what passed or was not applicable, the score is full. -/
theorem scoreIn_lt_hundred_iff (framework : Framework) (controls : ℕ) (fs : List Finding) :
    ((Summary.ofFindings framework controls fs).scoreIn .rat < 100 ↔
      applicableIn fs < 2000 * flawedIn fs) ∧
    ((Summary.ofFindings framework controls fs).scoreIn .rat = 100 ↔
      2000 * flawedIn fs ≤ applicableIn fs) ∧
    ((∀ f ∈ fs, f.status = .pass ∨ f.status = .notApplicable) →
      (Summary.ofFindings framework controls fs).scoreIn .rat = 100) := by
  have happlicable := applicableIn_eq fs
  have hle : (Summary.ofFindings framework controls fs).scoreIn .rat ≤ 100 := by
    rw [scoreIn_rat]
    exact followsFindings_percent.le_hundred fs
  have hlt : (Summary.ofFindings framework controls fs).scoreIn .rat < 100 ↔
      applicableIn fs < 2000 * flawedIn fs := by
    rw [scoreIn_rat, percent_lt_iff, share_lt_iff]
    omega
  have hfull : (Summary.ofFindings framework controls fs).scoreIn .rat = 100 ↔
      2000 * flawedIn fs ≤ applicableIn fs := by
    rw [← hle.not_lt_iff_eq, hlt, not_lt]
  refine ⟨hlt, hfull, fun h => hfull.mpr ?_⟩
  have hflawed : flawedIn fs = 0 := by
    refine List.countP_eq_zero.mpr fun f hf => ?_
    rcases h f hf with hstatus | hstatus <;> rw [hstatus] <;> decide
  rw [hflawed]
  exact Nat.zero_le _

/-- Two findings that passed and one that was not applicable, alone and beside a failure. -/
theorem scoreIn_of_passed_and_idle :
    let row (status : Status) : Finding := { (default : Finding) with status }
    let rows := [row .pass, row .notApplicable, row .pass]
    (∀ f ∈ rows, f.status = .pass ∨ f.status = .notApplicable) ∧
      (Summary.ofFindings .cis 2 rows).scoreIn .rat = 100 ∧
      (Summary.ofFindings .cis 2 (row .fail :: rows)).scoreIn .rat < 100 := by
  intro row rows
  have hrows : ∀ f ∈ rows, f.status = .pass ∨ f.status = .notApplicable := by decide
  have hflawed : applicableIn (row .fail :: rows) < 2000 * flawedIn (row .fail :: rows) := by
    decide
  exact ⟨hrows, (scoreIn_lt_hundred_iff .cis 2 rows).2.2 hrows,
    (scoreIn_lt_hundred_iff .cis 2 (row .fail :: rows)).1.mpr hflawed⟩

/-- Two thousand findings of which one has failed: the score is full, in exact arithmetic and in
that of `Float`. -/
theorem scoreIn_eq_hundred_beside_failure :
    let row (status : Status) : Finding := { (default : Finding) with status }
    let rows := List.replicate 1999 (row .pass) ++ [row .fail]
    let s := Summary.ofFindings .cis 1 rows
    (∃ f ∈ rows, f.status = .fail) ∧ s.scoreIn .rat = 100 ∧ s.score = 100 := by
  intro row rows s
  have hfail : row .fail ∈ rows := List.mem_append_right _ (List.mem_singleton.mpr rfl)
  refine ⟨⟨row .fail, hfail, rfl⟩, ?_, ?_⟩
  · decide +kernel
  · decide +kernel

end Guardrail.Compliance
