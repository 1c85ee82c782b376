import InvocationClient.Proofs.Text.Blank
import InvocationClient.Text.Encoding

/-! # Percent decoding

An encoded text holds unreserved characters and percent signs only, so that none of the characters
that set components of a URL apart can stand in it. Its bytes can be read back, and with them the
text.
-/

namespace InvocationClient.Text.Percent

variable {b : UInt8} {bs : List UInt8} {c : Char} {cs : List Char} {n : Nat}

/-- The characters that encoded texts are made of. -/
def isEncoded (c : Char) : Bool :=
  c.isAlphanum || c = '_' || c = '.' || c = '-' || c = '~' || c = '%'

theorem isEncoded_upperHex (h : n < 16) : isEncoded (upperHex n) = true := by
  have ha : ∀ n < 16, isEncoded (upperHex n) = true := by decide
  exact ha n h

theorem isEncoded_of_isUnreserved (h : isUnreserved b = true) :
    isEncoded (Char.ofNat b.toNat) = true := by
  rw [isUnreserved] at h
  rw [isEncoded, h, Bool.true_or]

theorem isEncoded_of_mem_encodeByte (h : c ∈ encodeByte b) : isEncoded c = true := by
  have hb : b.toNat < 256 := b.toNat_lt
  rw [encodeByte] at h
  split at h
  · next hu =>
    obtain rfl := List.mem_singleton.mp h
    exact isEncoded_of_isUnreserved hu
  · simp only [List.mem_cons, List.not_mem_nil, or_false] at h
    rcases h with rfl | rfl | rfl
    · decide
    · exact isEncoded_upperHex (by omega)
    · exact isEncoded_upperHex (by omega)

theorem isEncoded_of_mem_encode {s : String} (h : c ∈ (encode s).toList) : isEncoded c = true := by
  rw [encode, String.toList_ofList, encodeBytes] at h
  obtain ⟨b, -, hc⟩ := List.mem_flatMap.mp h
  exact isEncoded_of_mem_encodeByte hc

theorem not_mem_encode {s : String} (h : isEncoded c = false) : c ∉ (encode s).toList := by
  intro hc
  rw [isEncoded_of_mem_encode hc] at h
  cases h

theorem bounds_of_isAlphanum (h : c.isAlphanum = true) : 48 ≤ c.toNat ∧ c.toNat ≤ 122 := by
  rcases Bool.or_eq_true_iff.mp h with h | h
  · rcases Bool.or_eq_true_iff.mp h with h | h
    · have hb : 65 ≤ c.toNat ∧ c.toNat ≤ 90 := of_decide_eq_true h
      omega
    · have hb : 97 ≤ c.toNat ∧ c.toNat ≤ 122 :=
        (Bool.and_eq_true_iff.mp h).imp of_decide_eq_true of_decide_eq_true
      omega
  · have hb : 48 ≤ c.toNat ∧ c.toNat ≤ 57 := Char.isDigit_iff_toNat.mp h
    omega

theorem bounds_of_isEncoded (h : isEncoded c = true) : 37 ≤ c.toNat ∧ c.toNat ≤ 126 := by
  simp only [isEncoded, Bool.or_eq_true, decide_eq_true_eq] at h
  rcases h with ((((h | rfl) | rfl) | rfl) | rfl) | rfl
  · have hb := bounds_of_isAlphanum h
    omega
  all_goals decide

theorem not_isBlank_of_isEncoded (h : isEncoded c = true) : isBlank c = false := by
  have hb := bounds_of_isEncoded h
  exact not_isBlank_of_bounds (by omega)

def hexValue (c : Char) : Nat := if c.isDigit then c.toNat - 48 else c.toNat - 55

theorem hexValue_upperHex (h : n < 16) : hexValue (upperHex n) = n := by
  have ha : ∀ n < 16, hexValue (upperHex n) = n := by decide
  exact ha n h

/-- A percent sign and two digits stand for one byte, any other character for itself. -/
def decodeBytes : List Char → List UInt8
  | '%' :: high :: low :: cs => UInt8.ofNat (hexValue high * 16 + hexValue low) :: decodeBytes cs
  | c :: cs => UInt8.ofNat c.toNat :: decodeBytes cs
  | [] => []

theorem decodeBytes_cons (h : c ≠ '%') (cs : List Char) :
    decodeBytes (c :: cs) = UInt8.ofNat c.toNat :: decodeBytes cs := by
  rw [decodeBytes]
  rintro high low cs rfl
  exact absurd rfl h

theorem ne_percent_of_isUnreserved (h : isUnreserved b = true) : Char.ofNat b.toNat ≠ '%' := by
  intro hp
  rw [isUnreserved, hp] at h
  revert h
  decide

theorem toNat_ofNat_byte (b : UInt8) : (Char.ofNat b.toNat).toNat = b.toNat := by
  have hb : b.toNat < 256 := b.toNat_lt
  rw [Char.ofNat, dif_pos (Or.inl (by omega))]
  rfl

theorem decodeBytes_encodeByte (b : UInt8) (cs : List Char) :
    decodeBytes (encodeByte b ++ cs) = b :: decodeBytes cs := by
  have hb : b.toNat < 256 := b.toNat_lt
  rw [encodeByte]
  split
  · next hu =>
    rw [List.singleton_append, decodeBytes_cons (ne_percent_of_isUnreserved hu),
      toNat_ofNat_byte, UInt8.ofNat_toNat]
  · have hv : b.toNat / 16 * 16 + b.toNat % 16 = b.toNat := by omega
    rw [List.cons_append, List.cons_append, List.cons_append, List.nil_append, decodeBytes,
      hexValue_upperHex (by omega), hexValue_upperHex (by omega), hv, UInt8.ofNat_toNat]

theorem decodeBytes_encodeBytes (bs : List UInt8) : decodeBytes (encodeBytes bs) = bs := by
  induction bs with
  | nil => rfl
  | cons b bs ih =>
    rw [encodeBytes, List.flatMap_cons, decodeBytes_encodeByte]
    exact congrArg (b :: ·) ih

/-- The text that an encoded one stands for, if its bytes are those of a text in UTF-8. -/
def decode? (s : String) : Option String := String.fromUTF8? ⟨(decodeBytes s.toList).toArray⟩

theorem decode?_encode (s : String) : decode? (encode s) = some s := by
  have hb : (⟨(decodeBytes (encode s).toList).toArray⟩ : ByteArray) = s.toUTF8 := by
    rw [encode, String.toList_ofList, decodeBytes_encodeBytes]
  have hv : s.toUTF8.IsValidUTF8 := s.isValidUTF8
  rw [decode?, hb, String.fromUTF8?, dif_pos hv]
  rfl

theorem encode_inj {s t : String} : encode s = encode t ↔ s = t := by
  constructor
  · intro h
    exact Option.some.inj (by rw [← decode?_encode s, h, decode?_encode])
  · rintro rfl
    rfl

def isPlain (c : Char) : Bool := c.isAlphanum || c = '_' || c = '.' || c = '-' || c = '~'

def isUpperHex (c : Char) : Bool := c.isDigit || ('A' ≤ c && c ≤ 'F')

/-- A text of plain characters and of percent signs with two upper-case hexadecimal digits each. -/
inductive Escaped : List Char → Prop where
  | nil : Escaped []
  | plain {c : Char} {cs : List Char} : isPlain c = true → Escaped cs → Escaped (c :: cs)
  | escape {high low : Char} {cs : List Char} : isUpperHex high = true → isUpperHex low = true →
      Escaped cs → Escaped ('%' :: high :: low :: cs)

theorem isUpperHex_upperHex (h : n < 16) : isUpperHex (upperHex n) = true := by
  have ha : ∀ n < 16, isUpperHex (upperHex n) = true := by decide
  exact ha n h

theorem Escaped.encodeByte (h : Escaped cs) (b : UInt8) : Escaped (encodeByte b ++ cs) := by
  have hb : b.toNat < 256 := b.toNat_lt
  rw [Percent.encodeByte]
  split
  · next hu => exact .plain hu h
  · exact .escape (isUpperHex_upperHex (by omega)) (isUpperHex_upperHex (by omega)) h

theorem escaped_encodeBytes (bs : List UInt8) : Escaped (encodeBytes bs) := by
  induction bs with
  | nil => exact .nil
  | cons b bs ih =>
    rw [encodeBytes, List.flatMap_cons]
    exact ih.encodeByte b

theorem escaped_encode (s : String) : Escaped (encode s).toList := by
  rw [encode, String.toList_ofList]
  exact escaped_encodeBytes _

section Names

def upperDigits : List Char :=
  ['0', '1', '2', '3', '4', '5', '6', '7', '8', '9', 'A', 'B', 'C', 'D', 'E', 'F']

theorem upperDigits_getElem? (h : n < 16) : upperDigits[n]? = some (upperHex n) := by
  have ha : ∀ n < 16, upperDigits[n]? = some (upperHex n) := by decide
  exact ha n h

/-- How bytes are written in a segment of a path: as plain characters, where they are those, and
else as escapes of two digits. -/
inductive Spells : List UInt8 → List Char → Prop where
  | nil : Spells [] []
  | plain {b : UInt8} {bs : List UInt8} {cs : List Char} : isPlain (Char.ofNat b.toNat) = true →
      Spells bs cs → Spells (b :: bs) (Char.ofNat b.toNat :: cs)
  | escape {b : UInt8} {bs : List UInt8} {high low : Char} {cs : List Char} :
      isPlain (Char.ofNat b.toNat) = false → upperDigits[b.toNat / 16]? = some high →
      upperDigits[b.toNat % 16]? = some low → Spells bs cs →
      Spells (b :: bs) ('%' :: high :: low :: cs)

theorem spells_encodeBytes (bs : List UInt8) : Spells bs (encodeBytes bs) := by
  induction bs with
  | nil => exact .nil
  | cons b bs ih =>
    have hb : b.toNat < 256 := b.toNat_lt
    rw [encodeBytes, List.flatMap_cons, Percent.encodeByte]
    split
    · next hu => exact .plain hu ih
    · next hu =>
      exact .escape (Bool.eq_false_iff.mpr hu) (upperDigits_getElem? (by omega))
        (upperDigits_getElem? (by omega)) ih

theorem Spells.unique (h : Spells bs cs) : ∀ {cs' : List Char}, Spells bs cs' → cs = cs' := by
  induction h with
  | nil =>
    rintro cs' ⟨⟩
    rfl
  | plain hp _ ih =>
    intro cs' h'
    cases h' with
    | plain _ h' => rw [ih h']
    | escape hn => exact absurd hp (by simp [hn])
  | escape hn hh hl _ ih =>
    intro cs' h'
    cases h' with
    | plain hp => exact absurd hp (by simp [hn])
    | escape _ hh' hl' h' =>
      cases hh.symm.trans hh'
      cases hl.symm.trans hl'
      rw [ih h']

/-- A segment names the text whose bytes it spells. -/
def Names (segment text : String) : Prop := Spells text.toUTF8.data.toList segment.toList

theorem names_encode (s : String) : Names (encode s) s := by
  rw [Names, encode, String.toList_ofList]
  exact spells_encodeBytes _

theorem Names.eq_encode {segment text : String} (h : Names segment text) :
    segment = encode text :=
  String.toList_inj.mp (Spells.unique h (names_encode text))

end Names

end InvocationClient.Text.Percent
