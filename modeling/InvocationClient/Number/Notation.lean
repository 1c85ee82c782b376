import InvocationClient.Number.Decimal

/-! # Notations of integers as doubles

An integer that is shown as a double is the nearest one first. Its digits stand positionally, with an
exponent, or in the shorter of these two ways, and are rounded if there are too many.
-/

namespace InvocationClient.Number

/-- The quotient rounded to the nearest number, or to the even one of two equally near. -/
def roundedQuotient (n d : Nat) : Nat :=
  let twice := 2 * (n % d)
  if twice < d || (twice = d && n / d % 2 = 0) then n / d else n / d + 1

/-- None for what is nearer to infinity than to a double. -/
def nearestDouble? (n : Nat) : Option Nat :=
  let unit := Nat.pow 2 (n.log2 - 52)
  let m := roundedQuotient n unit * unit
  if m < Nat.pow 2 1024 then some m else none

/-- The first digits of a number, and the exponent of the very first. -/
def significant (count n : Nat) : List Char × Nat :=
  let digits := Nat.toDigits 10 n
  if digits.length ≤ count then
    (digits ++ List.replicate (count - digits.length) '0', digits.length - 1)
  else
    let cut := digits.length - count
    let kept := Nat.toDigits 10 (roundedQuotient n (Nat.pow 10 cut))
    (kept.take count, kept.length + cut - 1)

example : significant 2 995 = ("10".toList, 3) ∧ significant 2 985 = ("98".toList, 2) := by decide

inductive Notation where
  | fixed
  | scientific
  | general
  deriving DecidableEq, Repr

namespace Notation

/-- What follows the point. If nothing does there is no point, unless it is asked for. -/
def fraction (pointed : Bool) (digits : List Char) : List Char :=
  if digits.isEmpty && !pointed then [] else '.' :: digits

def exponent (e : Nat) : List Char := (layout.exponentPart e).toList

/-- Zeros at the end of a fraction stay only where the point is asked for. -/
def trimmed (pointed : Bool) (digits : List Char) : List Char :=
  if pointed then digits else (digits.reverse.dropWhile (· = '0')).reverse

/-- The greatest precision, which is one too great to have one more digit before the point. -/
def precisionLimit : Nat := 2147483647

/-- Writes a number that is a double. The precision tells the digits behind the point; in the general
notation all digits are told, and there is at least one. -/
def write (pointed : Bool) (precision n : Nat) : Notation → List Char
  | fixed => Nat.toDigits 10 n ++ fraction pointed (List.replicate precision '0')
  | scientific =>
    let (digits, e) := significant (if precision = precisionLimit then 1 else precision + 1) n
    digits.take 1 ++ fraction pointed (digits.drop 1) ++ exponent e
  | general =>
    let (digits, e) := significant (max precision 1) n
    if e < max precision 1 then
      digits.take (e + 1) ++ fraction pointed (trimmed pointed (digits.drop (e + 1)))
    else digits.take 1 ++ fraction pointed (trimmed pointed (digits.drop 1)) ++ exponent e

example : scientific.write false 2 123456 = "1.23e+05".toList ∧
    general.write false 6 1000000 = "1e+06".toList ∧
    general.write true 6 100 = "100.000".toList := by decide

end Notation

end InvocationClient.Number
