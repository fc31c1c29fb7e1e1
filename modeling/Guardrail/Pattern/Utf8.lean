/-!
# Bytes of characters

How the characters of a range are encoded: by sequences of ranges of bytes, in ascending order.
-/

namespace Guardrail.Pattern

/-- A sequence of ranges of bytes. -/
abbrev ByteRanges := List (Nat × Nat)

/-- The bytes that encode a code point. -/
def encode (n : Nat) : List Nat :=
  if n < 0x80 then [n]
  else if n < 0x800 then [0xc0 + n / 64, 0x80 + n % 64]
  else if n < 0x10000 then [0xe0 + n / 4096, 0x80 + n / 64 % 64, 0x80 + n % 64]
  else [0xf0 + n / 262144, 0x80 + n / 4096 % 64, 0x80 + n / 64 % 64, 0x80 + n % 64]

/-- Code points that are encoded by one sequence of byte ranges, once they are cut where the
last `6 * k` bits begin anew. -/
def sequencesAt (k : Nat) (first last : Nat) : List ByteRanges :=
  match k with
  | 0 => [(encode first).zip (encode last)]
  | k + 1 =>
    let block := Nat.pow 64 (k + 1)
    if first / block = last / block then sequencesAt k first last
    else
      let head := if first % block = 0 then [] else
        sequencesAt k first (first / block * block + block - 1)
      let middleFirst := if first % block = 0 then first else first / block * block + block
      let middleLast := if last % block = block - 1 then last else last / block * block - 1
      let middle := if middleFirst ≤ middleLast then
        [(encode middleFirst).zip (encode middleLast)] else []
      let tail := if last % block = block - 1 then [] else
        sequencesAt k (last / block * block) last
      head ++ middle ++ tail

/-- The sequences of byte ranges that encode a range of code points. -/
def sequences (first last : Nat) : List ByteRanges :=
  [(0, 0x7f, 0), (0x80, 0x7ff, 1), (0x800, 0xd7ff, 2), (0xe000, 0xffff, 2),
    (0x10000, 0x10ffff, 3)].flatMap fun (low, high, k) =>
      let first := max first low
      let last := min last high
      if first ≤ last then sequencesAt k first last else []

end Guardrail.Pattern
