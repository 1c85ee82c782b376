import InvocationClient.Text.CodePoint
import InvocationClient.Text.Split

/-! # Punycode

Texts written in the letters, digits and hyphen of ASCII: the characters of ASCII come first, then
digits that tell which others have to be inserted, in ascending order, and where.
-/

namespace InvocationClient.Text.Punycode

/-- Letters of either case for the numbers from zero on, then the digits. -/
def value? (c : Char) : Option Nat :=
  if c.isLower then some (c.toNat - 97)
  else if c.isUpper then some (c.toNat - 65)
  else if c.isDigit then some (c.toNat - 22)
  else none

def digit (n : Nat) : Char := Char.ofNat (if n < 26 then 97 + n else 22 + n)

example : (List.range 36).all fun n => value? (digit n) = some n := by decide +kernel

/-- A digit below the threshold of its column ends a number. -/
def threshold (column bias : Nat) : Nat := max 1 (min 26 (column - bias))

theorem threshold_pos (column bias : Nat) : 0 < threshold column bias := by
  simp only [threshold]; omega

theorem threshold_lt (column bias : Nat) : threshold column bias < 27 := by
  simp only [threshold]; omega

def biasFor (bias delta : Nat) : Nat :=
  if 455 < delta then biasFor (bias + 36) (delta / 35)
  else bias + 36 * delta / (delta + 38)
termination_by delta
decreasing_by exact Nat.div_lt_self (by omega) (by decide)

/-- The bias after a number, when the text has grown to `length`. -/
def adapt (delta length : Nat) (isFirst : Bool) : Nat :=
  let delta := if isFirst then delta / 700 else delta / 2
  biasFor 0 (delta + delta / length)

structure Reading where
  text : List CodePoint
  code : Nat := 128
  place : Nat := 0
  bias : Nat := 72
  isFirst : Bool := true
  delta : Nat := 0
  weight : Nat := 1
  column : Nat := 36

namespace Reading

/-- A number counts the places that are passed over, from one code point to the next. -/
def insert (r : Reading) (delta : Nat) : Option Reading :=
  let length := r.text.length + 1
  let place := (r.place + delta) % length
  let code := r.code + (r.place + delta) / length
  if h : code < 0x110000 then
    some
      { text := r.text.insertIdx place ⟨code, h⟩
        code
        place := place + 1
        bias := adapt delta length r.isFirst
        isFirst := false }
  else none

def step (r : Reading) (c : Char) : Option Reading :=
  match value? c with
  | none => none
  | some n =>
    let t := threshold r.column r.bias
    let delta := r.delta + n * r.weight
    if n < t then r.insert delta
    else some { r with delta, weight := r.weight * (36 - t), column := r.column + 36 }

def isBetweenNumbers (r : Reading) : Bool := r.column = 36

end Reading

/-- The last hyphen sets the characters of ASCII apart. The text may hold lone surrogates. -/
def decode? (cs : List Char) : Option (List CodePoint) :=
  let (basic, digits) := (splitLast? (· = '-') cs).getD ([], cs)
  match digits.foldlM Reading.step { text := basic.map .ofChar } with
  | some r => if r.isBetweenNumbers then some r.text else none
  | none => none

def number (bias column n : Nat) : List Char :=
  let t := threshold column bias
  if n < t then [digit n]
  else digit (t + (n - t) % (36 - t)) :: number bias (column + 36) ((n - t) / (36 - t))
termination_by n
decreasing_by
  have h₁ := threshold_pos column bias
  have h₂ := threshold_lt column bias
  exact Nat.lt_of_le_of_lt (Nat.div_le_self _ _) (by omega)

/-- Digits that are being written; `length` is that of the text which they lead to so far. -/
structure Writing where
  length : Nat
  code : Nat := 128
  bias : Nat := 72
  isFirst : Bool := true
  delta : Nat := 0
  digits : List Char := []

namespace Writing

/-- Passes over a place of the text, or inserts the code point that is wanted there. -/
def pass (code : Nat) (w : Writing) (p : CodePoint) : Writing :=
  if p.val < code then { w with delta := w.delta + 1 }
  else if code < p.val then w
  else
    { w with
      length := w.length + 1
      bias := adapt w.delta (w.length + 1) w.isFirst
      isFirst := false
      delta := 0
      digits := w.digits ++ number w.bias 36 w.delta }

/-- Goes on to the next code point and passes through the whole text. -/
def step (text : List CodePoint) (w : Writing) (code : Nat) : Writing :=
  let start := { w with delta := w.delta + (code - w.code) * (w.length + 1) }
  let w := text.foldl (pass code) start
  { w with code := code + 1, delta := w.delta + 1 }

end Writing

def encode (text : List CodePoint) : List Char :=
  let basic := text.filter (·.val < 128)
  let others := ((text.map (·.val)).filter (128 ≤ ·)).mergeSort.eraseDups
  let w := others.foldl (Writing.step text) { length := basic.length }
  basic.filterMap CodePoint.toChar? ++ (if basic.isEmpty then [] else ['-']) ++ w.digits

example : encode (codePoints "bücher") = "bcher-kva".toList ∧
    decode? "bcher-kva".toList = some (codePoints "bücher") := by
  decide +kernel

example : decode? "i".toList = none ∧ decode? "a_b".toList = none ∧
    decode? "99999999".toList = none := by
  decide +kernel

end InvocationClient.Text.Punycode
