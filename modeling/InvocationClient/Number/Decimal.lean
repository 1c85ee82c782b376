import InvocationClient.Number.Shortest

/-! # Doubles in decimal

Doubles are written with the fewest digits that read back, positionally from a ten-thousandth up
to `10 ^ 16`, and read with correct rounding.
-/

namespace InvocationClient.Number

inductive Parts where
  | nan
  | infinity (negative : Bool)
  | zero (negative : Bool)
  | finite (negative : Bool) (mantissa : Nat) (exponent : Int) (leastOfBinade : Bool)
  deriving DecidableEq, Repr

/-- One bit of sign, eleven of exponent, fifty-two of mantissa. -/
def Parts.ofBits (bits : Nat) : Parts :=
  let negative := bits / Nat.pow 2 63 % 2 == 1
  let exponent : Nat := bits / Nat.pow 2 52 % Nat.pow 2 11
  let mantissa := bits % Nat.pow 2 52
  if exponent = 2047 then if mantissa = 0 then .infinity negative else .nan
  else if exponent = 0 then
    if mantissa = 0 then .zero negative else .finite negative mantissa (-1074) false
  else
    .finite negative (mantissa + Nat.pow 2 52) ((exponent : Int) - 1075)
      (mantissa = 0 && exponent ≠ 1)

def Parts.ofFloat (x : Float) : Parts :=
  .ofBits x.toBits.toNat

/-- How a decimal is laid out. Numbers are positional if their leading digit stands for a power
of ten from `positionalFrom` to below `positionalBelow`. -/
structure Layout where
  positionalFrom : Int
  positionalBelow : Int
  exponentWidth : Nat

/-- A whole number keeps one zero behind the point; an exponent has a sign and two digits. -/
def layout : Layout := ⟨-4, 16, 2⟩

namespace Layout

def zeros (n : Nat) : String := String.ofList (List.replicate n '0')

def exponentPart (l : Layout) (e : Int) : String :=
  let digits := toString e.natAbs
  (if e < 0 then "e-" else "e+") ++ zeros (l.exponentWidth - digits.length) ++ digits

def write (l : Layout) (digits : Nat) (k : Int) : String :=
  let ds := Nat.toDigits 10 digits
  let point := k + ds.length
  if l.positionalFrom < point && point ≤ l.positionalBelow then
    if 0 ≤ k then String.ofList ds ++ zeros k.toNat ++ ".0"
    else if 0 < point then
      String.ofList (ds.take point.toNat) ++ "." ++ String.ofList (ds.drop point.toNat)
    else "0." ++ zeros (-point).toNat ++ String.ofList ds
  else
    let fraction := if ds.length = 1 then "" else "." ++ String.ofList (ds.drop 1)
    String.ofList (ds.take 1) ++ fraction ++ l.exponentPart (point - 1)

example : layout.write 1 15 = "1000000000000000.0" ∧ layout.write 1 16 = "1e+16" := by
  decide +kernel

example : layout.write 1 (-4) = "0.0001" ∧ layout.write 12 (-6) = "1.2e-05" := by
  decide +kernel

example : layout.write 1234 (-2) = "12.34" ∧ layout.write 5 (-324) = "5e-324" := by
  decide +kernel

end Layout

/-- The spellings of what has no digits differ between texts and JSON documents. -/
structure Spelling where
  nan : String
  infinity : String

def signed (negative : Bool) (s : String) : String :=
  if negative then "-" ++ s else s

def writeParts (spelling : Spelling) : Parts → String
  | .nan => spelling.nan
  | .infinity negative => signed negative spelling.infinity
  | .zero negative => signed negative "0.0"
  | .finite negative mantissa exponent least =>
    let (digits, k) := (Neighbourhood.ofParts mantissa exponent least).shortest
    signed negative (layout.write digits k)

def textSpelling : Spelling := ⟨"nan", "inf"⟩

def writeFloat (x : Float) : String :=
  writeParts textSpelling (.ofFloat x)

/-- The double nearest to a tenth, and the least and the greatest positive one. -/
example : writeParts textSpelling (.ofBits 0x3fb999999999999a) = "0.1" ∧
    writeParts textSpelling (.ofBits 1) = "5e-324" ∧
    writeParts textSpelling (.ofBits 0x7fefffffffffffff) = "1.7976931348623157e+308" := by
  decide +kernel

/-- The double nearest to `digits * 10 ^ exponent`. What is out of range by far is not computed. -/
def readDecimal (negative : Bool) (digits : Nat) (exponent : Int) : Float :=
  let size : Float :=
    if digits = 0 then 0.0
    else if 400 < exponent then 1.0 / 0.0
    else if (digits.log2 + 1 : Int) / 3 + 1 + exponent < -400 then 0.0
    else Float.ofScientific digits (exponent < 0) exponent.natAbs
  if negative then -size else size

inductive NotFinite where
  | nan
  | infinity
  deriving DecidableEq, Repr

def NotFinite.message : NotFinite → String
  | nan => "cannot convert float NaN to integer"
  | infinity => "cannot convert float infinity to integer"

def Parts.truncate : Parts → Except NotFinite Int
  | .nan => .error .nan
  | .infinity _ => .error .infinity
  | .zero _ => .ok 0
  | .finite negative mantissa exponent _ =>
    let size : Int := mantissa * Nat.pow 2 exponent.toNat / Nat.pow 2 (-exponent).toNat
    .ok (if negative then -size else size)

def truncate (x : Float) : Except NotFinite Int :=
  (Parts.ofFloat x).truncate

end InvocationClient.Number
