import InvocationClient.Text.Quoted

/-! # Faults of domain names

Why a name is no domain name. A place in a label is counted from zero and told from one on.
-/

namespace InvocationClient.Domain

open Text

abbrev Label := List CodePoint

inductive Fault where
  | nameTooLong
  | emptyName
  | emptyLabel
  | labelTooLong
  | nothingEncoded
  | hyphenAtEnd
  | undecodable
  | notComposed
  | innerHyphens
  | outerHyphen
  | leadingMark
  | forbidden (label : Label) (place : Nat) (p : CodePoint)
  | misplaced (label : Label) (place : Nat) (p : CodePoint)
  | misplacedJoiner (label : Label) (place : Nat) (p : CodePoint)
  | unknownDirection (label : Label) (place : Nat)
  | undirectedStart (label : Label)
  | againstRight (place : Nat)
  | againstLeft (place : Nat)
  | mixedNumbers
  | undirectedEnd
  deriving DecidableEq, Repr

/-- A code point as its number, in at least four hexadecimal digits. -/
def codeName (p : CodePoint) : String :=
  let digits := (Nat.toDigits 16 p.val).map Char.toUpper
  "U+" ++ String.ofList (List.replicate (4 - digits.length) '0' ++ digits)

example : codeName 0x5f = "U+005F" ∧ codeName 0x1f600 = "U+1F600" := by decide +kernel

namespace Fault

def kind : Fault → String
  | forbidden _ _ _ => "InvalidCodepoint"
  | misplaced _ _ _ => "InvalidCodepointContext"
  | unknownDirection _ _ => "IDNABidiError"
  | undirectedStart _ => "IDNABidiError"
  | againstRight _ => "IDNABidiError"
  | againstLeft _ => "IDNABidiError"
  | mixedNumbers => "IDNABidiError"
  | undirectedEnd => "IDNABidiError"
  | _ => "IDNAError"

def told (place : Nat) : String := toString (place + 1)

def message : Fault → String
  | nameTooLong => "Domain too long"
  | emptyName => "Empty domain"
  | emptyLabel => "Empty Label"
  | labelTooLong => "Label too long"
  | nothingEncoded => "Malformed A-label, no Punycode eligible content found"
  | hyphenAtEnd => "A-label must not end with a hyphen"
  | undecodable => "Invalid A-label"
  | notComposed => "Label must be in Normalization Form C"
  | innerHyphens => "Label has disallowed hyphens in 3rd and 4th position"
  | outerHyphen => "Label must not start or end with a hyphen"
  | leadingMark => "Label begins with an illegal combining character"
  | forbidden label place p =>
    "Codepoint " ++ codeName p ++ " at position " ++ told place ++ " of " ++ quotedPoints label ++
      " not allowed"
  | misplaced label place p =>
    "Codepoint " ++ codeName p ++ " not allowed at position " ++ told place ++ " in " ++
      quotedPoints label
  | misplacedJoiner label place p =>
    "Unknown codepoint adjacent to joiner " ++ codeName p ++ " at position " ++ told place ++
      " in " ++ quotedPoints label
  | unknownDirection label place =>
    "Unknown directionality in label " ++ quotedPoints label ++ " at position " ++ told place
  | undirectedStart label =>
    "First codepoint in label " ++ quotedPoints label ++ " must be directionality L, R or AL"
  | againstRight place =>
    "Invalid direction for codepoint at position " ++ told place ++ " in a right-to-left label"
  | againstLeft place =>
    "Invalid direction for codepoint at position " ++ told place ++ " in a left-to-right label"
  | mixedNumbers => "Can not mix numeral types in a right-to-left label"
  | undirectedEnd => "Label ends with illegal codepoint directionality"

end Fault

end InvocationClient.Domain
