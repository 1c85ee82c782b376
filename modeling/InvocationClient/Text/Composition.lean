import InvocationClient.Text.CombiningClass
import InvocationClient.Text.Composite

/-! # Composition

The canonical composition of Unicode 14.0, its Normalization Form C: marks stand in the order of
their classes, and what has a composite is put together.
-/

namespace InvocationClient.Text

/-! ## Hangul

A syllable is one of 19 leading consonants with one of 21 vowels, and one of 27 trailing consonants
or none.
-/

namespace Hangul

def composite? (a b : Nat) : Option Nat :=
  if 0x1100 ≤ a && a < 0x1113 && 0x1161 ≤ b && b < 0x1176 then
    some (0xac00 + ((a - 0x1100) * 21 + (b - 0x1161)) * 28)
  else if 0xac00 ≤ a && a < 0xd7a4 && (a - 0xac00) % 28 = 0 && 0x11a7 < b && b < 0x11c3 then
    some (a + (b - 0x11a7))
  else none

/-- A trailing consonant comes off first. -/
def parts? (code : Nat) : Option (Nat × Nat) :=
  let syllable := code - 0xac00
  if code < 0xac00 || 0xd7a4 ≤ code then none
  else if syllable % 28 = 0 then
    some (0x1100 + syllable / 28 / 21, 0x1161 + syllable / 28 % 21)
  else some (code - syllable % 28, 0x11a7 + syllable % 28)

end Hangul

def composite? (a b : Nat) : Option Nat :=
  (Hangul.composite? a b).or ((composites.find? (·.1 = (a, b))).map (·.2))

def parts? (code : Nat) : Option (Nat × Nat) :=
  (Hangul.parts? code).or ((composites.find? (·.2 = code)).map (·.1))

/-- Takes one mark off every composite. -/
def unstack (codes : List Nat) : List Nat :=
  codes.flatMap fun code => match parts? code with
    | some (a, b) => [a, b]
    | none => [code]

/-- No composite carries more than three marks. -/
def decomposed (codes : List Nat) : List Nat := unstack (unstack (unstack codes))

/-- Puts a character in front of a text, behind the marks of lower classes that it has there. -/
def insertMark (code : Nat) : List Nat → List Nat
  | [] => [code]
  | c :: cs =>
    if 0 < combiningClass c && combiningClass c < combiningClass code then c :: insertMark code cs
    else code :: c :: cs

/-- Every run of marks is put into the order of the classes; those of one class keep theirs. -/
def ordered (codes : List Nat) : List Nat := codes.foldr insertMark []

/-- Puts `base` together with what follows it. The marks that have been left standing are in `held`,
the last of them first; one of the same class or a higher one shields the base. -/
def composeFrom (base : Nat) (held : List Nat) : List Nat → List Nat
  | [] => base :: held.reverse
  | c :: cs =>
    let isShielded := held.head?.any fun m => combiningClass c ≤ combiningClass m
    match if isShielded then none else composite? base c with
    | some joined => composeFrom joined held cs
    | none =>
      if combiningClass c = 0 then base :: held.reverse ++ composeFrom c [] cs
      else composeFrom base (c :: held) cs

/-- Marks in front of the first base stand alone. -/
def recomposed : List Nat → List Nat
  | [] => []
  | c :: cs => if combiningClass c = 0 then composeFrom c [] cs else c :: recomposed cs

def isSingleton (code : Nat) : Bool := CodeRange.anyCovers singletonRanges code

def isComposed (codes : List Nat) : Bool :=
  !codes.any isSingleton && recomposed (ordered (decomposed codes)) = codes

example : isComposed [0xe9] ∧ !isComposed [0x65, 0x301] ∧ !isComposed [0xe1, 0x323] ∧
    !isComposed [0x212b] ∧ isComposed [0xac01] ∧ !isComposed [0xac00, 0x11a8] := by
  decide +kernel

end InvocationClient.Text
