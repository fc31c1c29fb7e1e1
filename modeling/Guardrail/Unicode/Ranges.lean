import Guardrail.Text.Search

/-!
# Tables of code points

The tables of the character database are texts in the usual notation: hexadecimal code points,
ranges with a dash, words separated by blanks. This module reads them and looks code points up.
-/

namespace Guardrail.Unicode

/-- The number that hexadecimal digits stand for. -/
def natOfHex (cs : List Char) : Nat :=
  cs.foldl (fun n c => 16 * n + (if c.isDigit then c.toNat - 48 else c.toNat - 55)) 0

/-- The words on the lines of a table. -/
def tableWords (table : List String) : List (List Char) :=
  table.flatMap fun line => (Text.splitWhere (· = ' ') line.toList).filter (!·.isEmpty)

/-- A word in front of a mark and behind it; without the mark both are the whole word. -/
def halves (mark : Char) (word : List Char) : List Char × List Char :=
  match word.dropWhile (· ≠ mark) with
  | _ :: second => (word.takeWhile (· ≠ mark), second)
  | [] => (word, word)

/-- Runs of code points: the last one of each, and a value. -/
def runsOfText (table : List String) : List (Nat × String) :=
  (tableWords table).map fun word =>
    let (last, value) := halves ':' word
    (natOfHex last, String.ofList value)

/-- Pairs of code points. -/
def pairsOfText (table : List String) : List (Nat × Nat) :=
  (tableWords table).map fun word =>
    let (first, second) := halves ':' word
    (natOfHex first, natOfHex second)

/-- Every second code point from `first` on, `count` of them, as ranges. -/
def everySecond (first count : Nat) : List (Nat × Nat) :=
  (List.range count).map fun i => (first + 2 * i, first + 2 * i)

/-- The ranges that one word of a table stands for. -/
def rangesOfWord (word : List Char) : List (Nat × Nat) :=
  let (first, last) := halves '-' word
  match last.dropWhile (· ≠ '/') with
  | [] => [(natOfHex first, natOfHex last)]
  | _ =>
    let first := natOfHex first
    let last := natOfHex (last.takeWhile (· ≠ '/'))
    everySecond first ((last - first) / 2 + 1)

/-- Ranges of code points, both ends included. A range with `/2` behind it holds every second
code point only. -/
def rangesOfText (table : List String) : List (Nat × Nat) :=
  (tableWords table).flatMap rangesOfWord

/-- Ranges of code points, each with the names behind its colon. -/
def sharesOfText (table : List String) : List ((Nat × Nat) × List String) :=
  (tableWords table).map fun word =>
    let (first, last) := halves '-' (word.takeWhile (· ≠ ':'))
    let names := Text.splitWhere (· = ',') ((word.dropWhile (· ≠ ':')).drop 1)
    ((natOfHex first, natOfHex last), names.map String.ofList)

/-- The ranges of the runs whose value satisfies `p`; the first run begins at `first`. -/
def rangesOfRunsFrom (p : String → Bool) (first : Nat) : List (Nat × String) → List (Nat × Nat)
  | [] => []
  | (last, value) :: runs =>
    if p value then (first, last) :: rangesOfRunsFrom p (last + 1) runs
    else rangesOfRunsFrom p (last + 1) runs

/-- The ranges of the runs whose value satisfies `p`. -/
def rangesOfRuns (runs : List (Nat × String)) (p : String → Bool) : List (Nat × Nat) :=
  rangesOfRunsFrom p 0 runs

/-- The value of a code point, which is that of the first run that reaches it. -/
def valueInRuns (runs : List (Nat × String)) (n : Nat) : String :=
  ((runs.find? fun (last, _) => n ≤ last).map Prod.snd).getD ""

/-- Whether a code point lies in one of the ranges. -/
def inRanges (ranges : List (Nat × Nat)) (n : Nat) : Bool :=
  ranges.any fun (first, last) => first ≤ n && n ≤ last

/-- A range in front of ascending ranges, united with those that it meets. -/
def joinRange (range : Nat × Nat) : List (Nat × Nat) → List (Nat × Nat)
  | [] => [range]
  | (first, last) :: rest =>
    if range.2 + 1 < first then range :: (first, last) :: rest
    else joinRange (range.1, max range.2 last) rest

/-- The same code points in ascending ranges that do not touch. -/
def normalize (ranges : List (Nat × Nat)) : List (Nat × Nat) :=
  (ranges.mergeSort fun a b => a.1 ≤ b.1).foldr joinRange []

/-- The code points from `start` on that lie in none of the ascending ranges. -/
def complementFrom (start : Nat) : List (Nat × Nat) → List (Nat × Nat)
  | [] => if start ≤ 0x10ffff then [(start, 0x10ffff)] else []
  | (first, last) :: rest =>
    if start < first then (start, first - 1) :: complementFrom (last + 1) rest
    else complementFrom (last + 1) rest

/-- The code points that lie in none of the ascending ranges. -/
def complement (ranges : List (Nat × Nat)) : List (Nat × Nat) :=
  complementFrom 0 ranges

/-- The code points of either of two lists of ranges. -/
def union (xs ys : List (Nat × Nat)) : List (Nat × Nat) :=
  normalize (xs ++ ys)

/-- The code points that lie in both of two lists of ascending ranges. -/
def inter (xs ys : List (Nat × Nat)) : List (Nat × Nat) :=
  complement (union (complement xs) (complement ys))

/-- The code points that lie in the first of two lists of ascending ranges only. -/
def difference (xs ys : List (Nat × Nat)) : List (Nat × Nat) :=
  inter xs (complement ys)

/-- The code points that lie in one of two lists of ascending ranges only. -/
def symmetricDifference (xs ys : List (Nat × Nat)) : List (Nat × Nat) :=
  union (difference xs ys) (difference ys xs)

end Guardrail.Unicode
