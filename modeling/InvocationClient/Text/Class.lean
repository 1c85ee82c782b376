/-! # Classes of characters

Properties of characters, by the ranges of code points that have them. The white space that is
trimmed from the two ends of a text is one, the decimal digits of all scripts are another.
-/

namespace InvocationClient.Text

abbrev CodeRange := Nat × Nat

namespace CodeRange

def covers (r : CodeRange) (code : Nat) : Bool := r.1 ≤ code && code ≤ r.2

def areAscending (ranges : List CodeRange) : Bool :=
  (ranges.zip ranges.tail).all fun (r, s) => r.1 ≤ r.2 && r.2 + 1 < s.1

def anyCovers (ranges : List CodeRange) (code : Nat) : Bool :=
  ranges.any (·.covers code)

def value? {α : Type} (table : List (CodeRange × α)) (code : Nat) : Option α :=
  (table.find? (·.1.covers code)).map (·.2)

def areOrdered {α : Type} (table : List (CodeRange × α)) : Bool :=
  (table.zip table.tail).all fun (r, s) => r.1.1 ≤ r.1.2 && r.1.2 < s.1.1

end CodeRange

/-- The white space of Unicode together with the four information separators. -/
def isBlank (c : Char) : Bool :=
  (9 ≤ c.toNat && c.toNat ≤ 13) || (28 ≤ c.toNat && c.toNat ≤ 32) || c.toNat = 0x85 ||
    c.toNat = 0xa0 || c.toNat = 0x1680 || (0x2000 ≤ c.toNat && c.toNat ≤ 0x200a) ||
    c.toNat = 0x2028 || c.toNat = 0x2029 || c.toNat = 0x202f || c.toNat = 0x205f ||
    c.toNat = 0x3000

def trimEnd (p : Char → Bool) (cs : List Char) : List Char :=
  (cs.reverse.dropWhile p).reverse

def trimChars (cs : List Char) : List Char :=
  trimEnd isBlank (cs.dropWhile isBlank)

def trim (s : String) : String :=
  String.ofList (trimChars s.toList)

@[simp] theorem toList_trim (s : String) : (trim s).toList = trimChars s.toList := by
  simp [trim]

/-- The zeros of Unicode 14.0, in ascending order. A script's ten digits stand side by side. -/
def zeros : List Nat :=
  [
    0x30, 0x660, 0x6f0, 0x7c0, 0x966, 0x9e6, 0xa66, 0xae6, 0xb66, 0xbe6, 0xc66, 0xce6, 0xd66,
    0xde6, 0xe50, 0xed0, 0xf20, 0x1040, 0x1090, 0x17e0, 0x1810, 0x1946, 0x19d0, 0x1a80, 0x1a90,
    0x1b50, 0x1bb0, 0x1c40, 0x1c50, 0xa620, 0xa8d0, 0xa900, 0xa9d0, 0xa9f0, 0xaa50, 0xabf0,
    0xff10, 0x104a0, 0x10d30, 0x11066, 0x110f0, 0x11136, 0x111d0, 0x112f0, 0x11450, 0x114d0,
    0x11650, 0x116c0, 0x11730, 0x118e0, 0x11950, 0x11c50, 0x11d50, 0x11da0, 0x16a60, 0x16ac0,
    0x16b50, 0x1d7ce, 0x1d7d8, 0x1d7e2, 0x1d7ec, 0x1d7f6, 0x1e140, 0x1e2f0, 0x1e950, 0x1fbf0
  ]

example : zeros.length = 66 ∧ (zeros.zip zeros.tail).all fun (a, b) => a + 10 ≤ b := by
  decide +kernel

def isDecimal (c : Char) : Bool :=
  zeros.any fun z => z ≤ c.toNat && c.toNat < z + 10

end InvocationClient.Text
