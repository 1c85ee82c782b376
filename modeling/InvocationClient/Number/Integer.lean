/-! # Integers in decimal

Reading and writing integers of any sign, up to a fixed number of digits.
-/

namespace InvocationClient.Number

/-- Longer integers are neither read from a text nor written to one. -/
def digitLimit : Nat := 4300

/-- Value of a list of decimal digits; other characters are not looked for. -/
def ofDigits (cs : List Char) : Nat :=
  Nat.ofDigitChars 10 cs 0

/-- None if there are too many digits; leading zeros count. -/
def readDigits? (cs : List Char) : Option Nat :=
  if cs.length ≤ digitLimit then some (ofDigits cs) else none

/-- Whether the digits of an integer, its sign apart, are few enough to be written. -/
def isWritable (n : Int) : Bool :=
  (Nat.toDigits 10 n.natAbs).length ≤ digitLimit

structure Writable where
  value : Int
  isWritable : isWritable value = true
  deriving DecidableEq, Repr

namespace Writable

def repr (n : Writable) : String := n.value.repr

def ofInt? (n : Int) : Option Writable :=
  if h : Number.isWritable n = true then some ⟨n, h⟩ else none

theorem ext {m n : Writable} (h : m.value = n.value) : m = n := by
  cases m
  cases h
  rfl

theorem ofInt?_eq_some {n : Int} (h : Number.isWritable n = true) : ofInt? n = some ⟨n, h⟩ :=
  dif_pos h

theorem ofInt?_eq_none {n : Int} (h : Number.isWritable n = false) : ofInt? n = none :=
  dif_neg (by simp [h])

end Writable

theorem ofDigits_toDigits (n : Nat) : ofDigits (Nat.toDigits 10 n) = n :=
  Nat.ofDigitChars_toDigits (by decide) (by decide)

theorem Writable.not_lt_length {w : Writable} {n : Int} (h : w.value = n) :
    ¬ 4300 < (Nat.toDigits 10 n.natAbs).length :=
  h ▸ Nat.not_lt.mpr (of_decide_eq_true w.isWritable)

theorem lt_length_of_not_isWritable {n : Int} (h : isWritable n = false) :
    4300 < (Nat.toDigits 10 n.natAbs).length :=
  Nat.lt_of_not_le (of_decide_eq_false h)

theorem isWritable_iff (n : Int) : isWritable n = true ↔ n.natAbs < Nat.pow 10 digitLimit := by
  have hl : 0 < digitLimit := by decide
  simp only [isWritable, decide_eq_true_eq]
  generalize digitLimit = limit at hl
  exact Nat.length_toDigits_le_iff (by decide) hl

theorem isWritable_pow : isWritable (Nat.pow 10 digitLimit) = false := by
  rw [← Bool.not_eq_true, isWritable_iff, Int.natAbs_natCast]
  exact Nat.lt_irrefl _

end InvocationClient.Number
