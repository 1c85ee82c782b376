import InvocationClient.Text.Quoted

/-! # Encoding texts

A codec has bytes for some code points only. Otherwise the first stretch of others is reported with
its place: what is not in ASCII, and for UTF-8 the surrogates that are no part of a pair. In one
segment of a URL's path the bytes of UTF-8, all but the unreserved ones of RFC 3986, are written as
a percent sign and two upper-case hexadecimal digits.
-/

namespace InvocationClient.Text

/-- Code points that a codec has no bytes for: `width` of them from place `start` on, `first` the
first. -/
structure EncodingError where
  codec : String
  reason : String
  first : Nat
  start : Nat
  width : Nat
  deriving DecidableEq, Repr

namespace EncodingError

def message (e : EncodingError) : String :=
  let place :=
    if e.width = 1 then
      "character '" ++ String.ofList (hexEscape e.first) ++ "' in position " ++ toString e.start
    else
      "characters in position " ++ toString e.start ++ "-" ++ toString (e.start + e.width - 1)
  "'" ++ e.codec ++ "' codec can't encode " ++ place ++ ": " ++ e.reason

def find? {α : Type} (codec reason : String) (fits : α → Bool) (code : α → Nat) (xs : List α) :
    Option EncodingError :=
  match xs.dropWhile fits with
  | [] => none
  | x :: rest =>
    some
      { codec, reason
        first := code x
        start := (xs.takeWhile fits).length
        width := (rest.takeWhile fun y => !fits y).length + 1 }

theorem find?_eq_none_iff {α : Type} {codec reason : String} {fits : α → Bool} {code : α → Nat}
    (xs : List α) : find? codec reason fits code xs = none ↔ xs.all fits = true := by
  induction xs with
  | nil => simp [find?]
  | cons x xs ih =>
    by_cases h : fits x
    · simp only [find?, List.dropWhile_cons, List.all_cons, h, if_true, Bool.true_and] at ih ⊢
      rw [← ih]
      split <;> simp_all
    · simp [find?, h]

end EncodingError

namespace Ascii

def isAscii (c : Char) : Bool := c.toNat < 128

def isControl (c : Char) : Bool := c.toNat < 32 || c.toNat = 127

def fault? (cs : List Char) : Option EncodingError :=
  EncodingError.find? "ascii" "ordinal not in range(128)" isAscii Char.toNat cs

example : (fault? "Xé".toList).map (·.message) =
    some "'ascii' codec can't encode character '\\xe9' in position 1: ordinal not in range(128)" := by
  decide +kernel

example : (fault? "a→éb→".toList).map (·.message) =
    some "'ascii' codec can't encode characters in position 1-2: ordinal not in range(128)" := by
  decide +kernel

theorem fault?_eq_none_iff (cs : List Char) : fault? cs = none ↔ cs.all isAscii = true := by
  rw [fault?, EncodingError.find?_eq_none_iff]

end Ascii

namespace Utf8

def text (ps : List CodePoint) : Except EncodingError String :=
  match EncodingError.find? "utf-8" "surrogates not allowed" (·.val.isValidChar) (·.val) ps with
  | some e => .error e
  | none => .ok (String.ofList (ps.filterMap CodePoint.toChar?))

example : text [0x61, 0xd800, 0x62] =
    .error ⟨"utf-8", "surrogates not allowed", 0xd800, 1, 1⟩ := by
  cbv

end Utf8

namespace Percent

/-- The letters and digits of ASCII and `_`, `.`, `-`, `~`. -/
def isUnreserved (b : UInt8) : Bool :=
  let c := Char.ofNat b.toNat
  c.isAlphanum || c = '_' || c = '.' || c = '-' || c = '~'

def upperHex (n : Nat) : Char :=
  if n < 10 then Char.ofNat (48 + n) else Char.ofNat (55 + n)

def encodeByte (b : UInt8) : List Char :=
  if isUnreserved b then [Char.ofNat b.toNat]
  else ['%', upperHex (b.toNat / 16), upperHex (b.toNat % 16)]

def encodeBytes (bs : List UInt8) : List Char :=
  bs.flatMap encodeByte

def encode (s : String) : String :=
  String.ofList (encodeBytes s.toUTF8.data.toList)

end Percent

end InvocationClient.Text
