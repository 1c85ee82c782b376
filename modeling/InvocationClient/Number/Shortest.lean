/-! # Shortest decimals

The fewest decimal digits that read back as a given double, and the nearest such number to it.
All comparisons are exact, between natural numbers.
-/

namespace InvocationClient.Number

/-- The reals that round to a positive double: from `low` to `high`, around `value`, counted in
units of `2 ^ exponent`. The two ends belong to it if `closed`. -/
structure Neighbourhood where
  low : Nat
  value : Nat
  high : Nat
  exponent : Int
  closed : Bool
  deriving DecidableEq, Repr

namespace Neighbourhood

/-- The double `mantissa * 2 ^ exponent`. The gap below it is half as wide if it is the least of
its binade. -/
def ofParts (mantissa : Nat) (exponent : Int) (leastOfBinade : Bool) : Neighbourhood where
  low := if leastOfBinade then 4 * mantissa - 1 else 4 * mantissa - 2
  value := 4 * mantissa
  high := 4 * mantissa + 2
  exponent := exponent - 2
  closed := mantissa % 2 == 0

/-- Factors `(a, b)` for which `d * 10 ^ k` compares with `x * 2 ^ exponent` as `d * a` does
with `x * b`. -/
def scale (h : Neighbourhood) (k : Int) : Nat × Nat :=
  (Nat.pow 10 k.toNat * Nat.pow 2 (-h.exponent).toNat,
    Nat.pow 10 (-k).toNat * Nat.pow 2 h.exponent.toNat)

/-- Whether `d * 10 ^ k` reads back as the double. -/
def holds (h : Neighbourhood) (k : Int) (d : Nat) : Bool :=
  let (a, b) := h.scale k
  if h.closed then h.low * b ≤ d * a && d * a ≤ h.high * b
  else h.low * b < d * a && d * a < h.high * b

/-- The multiple of `10 ^ k` nearest to the double among those that read back as it; of two
equally near ones the even one. -/
def nearest? (h : Neighbourhood) (k : Int) : Option Nat :=
  let (a, b) := h.scale k
  let d := h.value * b / a
  let twice := 2 * (h.value * b % a)
  match h.holds k d, h.holds k (d + 1) with
  | true, true => some (if twice < a || (twice = a && d % 2 = 0) then d else d + 1)
  | true, false => some d
  | false, true => some (d + 1)
  | false, false => none

/-- No multiple of a higher power of ten lies in the neighbourhood. -/
def ceiling (h : Neighbourhood) : Int :=
  (h.high.log2 + 1 + h.exponent) * 30103 / 100000 + 2

/-- Goes down through the powers of ten to the first with a multiple that reads back. -/
def search (h : Neighbourhood) : (steps : Nat) → (k : Int) → Nat × Int
  | 0, k => (h.value * (h.scale k).2 / (h.scale k).1, k)
  | steps + 1, k =>
    match h.nearest? k with
    | some d => (d, k)
    | none => h.search steps (k - 1)

/-- Digits and power of ten of the shortest decimal; seventeen digits are always enough. -/
def shortest (h : Neighbourhood) : Nat × Int :=
  h.search 24 h.ceiling

end Neighbourhood

end InvocationClient.Number
