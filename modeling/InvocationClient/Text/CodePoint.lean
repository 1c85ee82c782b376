/-! # Code points

Texts that may hold a surrogate on its own, which no character can be: what decoding with lone
surrogates allowed yields, and what a string of a JSON document holds.
-/

namespace InvocationClient.Text

abbrev CodePoint := Fin 0x110000

namespace CodePoint

def ofNat (n : Nat) : CodePoint := Fin.ofNat _ n

def ofChar (c : Char) : CodePoint :=
  ⟨c.toNat, by
    have h := c.valid
    simp only [UInt32.isValidChar, Nat.isValidChar] at h
    simp only [Char.toNat]
    omega⟩

def isHighSurrogate (p : CodePoint) : Bool := 0xd800 ≤ p.val && p.val < 0xdc00

def isLowSurrogate (p : CodePoint) : Bool := 0xdc00 ≤ p.val && p.val < 0xe000

def toChar? (p : CodePoint) : Option Char :=
  if p.val.isValidChar then some (Char.ofNat p.val) else none

def joined (high low : CodePoint) : CodePoint :=
  ofNat (0x10000 + (high.val - 0xd800) * 0x400 + (low.val - 0xdc00))

theorem val_ofNat {n : Nat} (h : n < 0x110000) : (ofNat n).val = n := Nat.mod_eq_of_lt h

theorem ofNat_val (p : CodePoint) : ofNat p.val = p := Fin.ext (Nat.mod_eq_of_lt p.isLt)

@[simp] theorem val_ofChar (c : Char) : (ofChar c).val = c.toNat := rfl

theorem ofNat_toNat (c : Char) : ofNat c.toNat = ofChar c := ofNat_val (ofChar c)

theorem ofChar_ofNat {p : CodePoint} (h : p.val.isValidChar) : ofChar (Char.ofNat p.val) = p := by
  apply Fin.ext
  rw [val_ofChar, Char.ofNat, dif_pos h]
  rfl

theorem ofChar_injective {c d : Char} (h : ofChar c = ofChar d) : c = d := by
  have h := congrArg Fin.val h
  exact Char.toNat_inj.mp h

end CodePoint

def codePoints (s : String) : List CodePoint :=
  s.toList.map CodePoint.ofChar

theorem codePoints_inj {s t : String} : codePoints s = codePoints t ↔ s = t := by
  rw [codePoints, codePoints, List.map_inj_right fun _ _ => CodePoint.ofChar_injective,
    String.toList_inj]

/-- The text again, unless a surrogate is among the code points. -/
def ofCodePoints? (ps : List CodePoint) : Option String :=
  (ps.mapM CodePoint.toChar?).map String.ofList

end InvocationClient.Text
