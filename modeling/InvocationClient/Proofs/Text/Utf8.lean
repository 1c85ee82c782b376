import Mathlib.Data.List.Basic
import InvocationClient.Text.Decoding

/-! # Texts in UTF-8

Every character has a form of one to four bytes, which the decoder reads as that character and as
no more bytes than it has. So the bytes of a text read as the text, whatever it holds.
-/

namespace InvocationClient.Text.Utf8

variable {c : Char} {m n : Nat}

/-- A byte behind the lead byte, which carries six bits. -/
def tailByte (n : Nat) : UInt8 := UInt8.ofNat (n % 64 + 128)

theorem isContinuation_tailByte (n : Nat) : isContinuation (tailByte n) = true := by
  have ha : ∀ m < 64, isContinuation (UInt8.ofNat (m + 128)) = true := by decide
  exact ha (n % 64) (Nat.mod_lt n (by decide))

theorem low6_tailByte (n : Nat) : low6 (tailByte n) = n % 64 := by
  have ha : ∀ m < 64, low6 (UInt8.ofNat (m + 128)) = m := by decide
  exact ha (n % 64) (Nat.mod_lt n (by decide))

theorem toNat_tailByte (n : Nat) : (tailByte n).toNat = n % 64 + 128 :=
  UInt8.toNat_ofNat_of_lt' (show n % 64 + 128 < 256 by omega)

theorem bne_iff (h : n < 256) (b : UInt8) : (UInt8.ofNat n != b) = true ↔ n ≠ b.toNat := by
  rw [bne_iff_ne, ne_eq, ← UInt8.toNat_inj, UInt8.toNat_ofNat_of_lt' h]

/-- What a second byte has to keep out, told by the bits that both bytes carry. -/
theorem fitsSecond_tailByte (h : n < 256) (he : n = 0xe0 → 32 ≤ m % 64)
    (hs : n = 0xed → m % 64 < 32) (hf : n = 0xf0 → 16 ≤ m % 64) (hl : n = 0xf4 → m % 64 < 16) :
    fitsSecond (UInt8.ofNat n) (tailByte m) = true := by
  simp only [fitsSecond, isContinuation_tailByte, Bool.true_and, Bool.and_eq_true,
    Bool.or_eq_true, decide_eq_true_eq, bne_iff h, UInt8.le_iff_toNat_le, UInt8.lt_iff_toNat_lt,
    toNat_tailByte]
  refine ⟨⟨⟨?_, ?_⟩, ?_⟩, ?_⟩
  · change n ≠ 0xe0 ∨ 0xa0 ≤ m % 64 + 128
    omega
  · change n ≠ 0xed ∨ m % 64 + 128 < 0xa0
    omega
  · change n ≠ 0xf0 ∨ 0x90 ≤ m % 64 + 128
    omega
  · change n ≠ 0xf4 ∨ m % 64 + 128 < 0x90
    omega

theorem utf8EncodeChar_of_ascii (h : c.toNat < 128) :
    String.utf8EncodeChar c = [UInt8.ofNat c.toNat] :=
  String.utf8EncodeChar_eq_singleton (Char.utf8Size_eq_one_iff.mpr (Nat.le_of_lt_succ h))

theorem ofNat_ne_zero (hp : 0 < n) (h : n < 256) : UInt8.ofNat n ≠ 0 := by
  rw [ne_eq, ← UInt8.toNat_inj, UInt8.toNat_ofNat_of_lt' h]
  exact Nat.ne_of_gt hp

theorem ne_zero_of_mem_utf8EncodeChar (h : c ≠ '\x00') : ∀ b ∈ String.utf8EncodeChar c, b ≠ 0 := by
  have hc : 0 < c.toNat := Nat.pos_of_ne_zero fun hn => h (Char.toNat_inj.mp hn)
  have ht : ∀ m, tailByte m ≠ 0 := fun m => ofNat_ne_zero (by omega) (by omega)
  unfold String.utf8EncodeChar
  dsimp only
  split
  · next hl =>
    have hl : c.toNat ≤ 127 := hl
    exact List.forall_mem_singleton.mpr (ofNat_ne_zero hc (by omega))
  split
  · exact List.forall_mem_cons.mpr ⟨ofNat_ne_zero (by omega) (by omega),
      List.forall_mem_singleton.mpr (ht _)⟩
  split
  · exact List.forall_mem_cons.mpr ⟨ofNat_ne_zero (by omega) (by omega),
      List.forall_mem_cons.mpr ⟨ht _, List.forall_mem_singleton.mpr (ht _)⟩⟩
  · exact List.forall_mem_cons.mpr ⟨ofNat_ne_zero (by omega) (by omega),
      List.forall_mem_cons.mpr ⟨ht _, List.forall_mem_cons.mpr
        ⟨ht _, List.forall_mem_singleton.mpr (ht _)⟩⟩⟩

theorem toNat_bounds (c : Char) : c.toNat < 0xd800 ∨ 0xdfff < c.toNat ∧ c.toNat < 0x110000 :=
  c.valid

section Forms

variable (surrogates : Bool) (rest : List UInt8)

/-- A step goes by the number of the lead byte. -/
theorem step_ofNat (h : n < 256) :
    step surrogates (UInt8.ofNat n) rest =
      if n < 128 then .ok (CodePoint.ofNat n, 0)
      else if n < 194 then .error (.invalidStart, 1)
      else if n < 224 then step2 (UInt8.ofNat n) rest
      else if n < 240 then step3 surrogates (UInt8.ofNat n) rest
      else if n < 245 then step4 (UInt8.ofNat n) rest
      else .error (.invalidStart, 1) := by
  simp only [step, UInt8.lt_iff_toNat_lt, UInt8.toNat_ofNat_of_lt' h]
  rfl

theorem step_one (h : c.toNat ≤ 127) :
    step surrogates (UInt8.ofNat c.toNat) rest = .ok (CodePoint.ofChar c, 0) := by
  rw [step_ofNat surrogates rest (by omega), if_pos (by omega), CodePoint.ofNat_toNat]

theorem step_two (h : ¬ c.toNat ≤ 127) (h' : c.toNat ≤ 2047) :
    step surrogates (UInt8.ofNat (c.toNat / 64 % 32 + 192)) (tailByte c.toNat :: rest) =
      .ok (CodePoint.ofChar c, 1) := by
  have hb : c.toNat / 64 % 32 + 192 < 256 := by omega
  have hv : (c.toNat / 64 % 32 + 192) % 32 * 64 + c.toNat % 64 = c.toNat := by omega
  rw [step_ofNat surrogates _ hb, if_neg (by omega), if_neg (by omega), if_pos (by omega), step2,
    if_pos (isContinuation_tailByte _), low6_tailByte, UInt8.toNat_ofNat_of_lt' hb, hv, CodePoint.ofNat_toNat]

theorem step_three (h : ¬ c.toNat ≤ 2047) (h' : c.toNat ≤ 65535) :
    step surrogates (UInt8.ofNat (c.toNat / 4096 % 16 + 224))
        (tailByte (c.toNat / 64) :: tailByte c.toNat :: rest) =
      .ok (CodePoint.ofChar c, 2) := by
  have hc := toNat_bounds c
  have hb : c.toNat / 4096 % 16 + 224 < 256 := by omega
  have hv : (c.toNat / 4096 % 16 + 224) % 16 * 4096 + c.toNat / 64 % 64 * 64 + c.toNat % 64 =
      c.toNat := by omega
  have hs : fitsSecond (UInt8.ofNat (c.toNat / 4096 % 16 + 224)) (tailByte (c.toNat / 64)) =
      true := fitsSecond_tailByte hb (by omega) (by omega) (by omega) (by omega)
  rw [step_ofNat surrogates _ hb, if_neg (by omega), if_neg (by omega), if_neg (by omega),
    if_pos (by omega), step3]
  simp only [hs, isContinuation_tailByte, low6_tailByte, UInt8.toNat_ofNat_of_lt' hb, hv,
    CodePoint.ofNat_toNat, Bool.not_true, Bool.false_eq_true, if_false, ite_self]

theorem step_four (h : ¬ c.toNat ≤ 65535) :
    step surrogates (UInt8.ofNat (c.toNat / 262144 % 8 + 240))
        (tailByte (c.toNat / 4096) :: tailByte (c.toNat / 64) :: tailByte c.toNat :: rest) =
      .ok (CodePoint.ofChar c, 3) := by
  have hc := toNat_bounds c
  have hb : c.toNat / 262144 % 8 + 240 < 256 := by omega
  have hv : (c.toNat / 262144 % 8 + 240) % 8 * 262144 + c.toNat / 4096 % 64 * 4096 +
      c.toNat / 64 % 64 * 64 + c.toNat % 64 = c.toNat := by omega
  have hs : fitsSecond (UInt8.ofNat (c.toNat / 262144 % 8 + 240)) (tailByte (c.toNat / 4096)) =
      true := fitsSecond_tailByte hb (by omega) (by omega) (by omega) (by omega)
  rw [step_ofNat surrogates _ hb, if_neg (by omega), if_neg (by omega), if_neg (by omega),
    if_neg (by omega), if_pos (by omega), step4]
  simp only [hs, isContinuation_tailByte, low6_tailByte, UInt8.toNat_ofNat_of_lt' hb, hv,
    CodePoint.ofNat_toNat, Bool.not_true, Bool.false_eq_true, if_false]

end Forms

/-- Whichever form a character has, it is read whole and nothing behind it is. -/
theorem exists_step (surrogates : Bool) (c : Char) :
    ∃ lead more, String.utf8EncodeChar c = lead :: more ∧
      ∀ rest, step surrogates lead (more ++ rest) = .ok (CodePoint.ofChar c, more.length) := by
  unfold String.utf8EncodeChar
  dsimp only
  split
  · next h => exact ⟨_, _, rfl, fun rest => step_one surrogates _ h⟩
  · next h =>
    split
    · next h' => exact ⟨_, _, rfl, fun rest => step_two surrogates _ h h'⟩
    · next h' =>
      split
      · next h'' => exact ⟨_, _, rfl, fun rest => step_three surrogates _ h' h''⟩
      · next h'' => exact ⟨_, _, rfl, fun rest => step_four surrogates _ h''⟩

theorem decodeFrom_utf8EncodeChar (surrogates : Bool) (start : Nat) (done : List CodePoint)
    (c : Char) (rest : List UInt8) :
    decodeFrom surrogates start done (String.utf8EncodeChar c ++ rest) =
      decodeFrom surrogates (start + c.utf8Size) (CodePoint.ofChar c :: done) rest := by
  obtain ⟨lead, more, he, hs⟩ := exists_step surrogates c
  have hw : more.length + 1 = c.utf8Size := by
    rw [← String.length_utf8EncodeChar, he, List.length_cons]
  rw [he, List.cons_append, decodeFrom, hs]
  simp only [List.drop_left]
  rw [← hw, Nat.add_comm more.length, Nat.add_assoc]

theorem decodeFrom_flatMap (surrogates : Bool) (start : Nat) (done : List CodePoint)
    (cs : List Char) :
    decodeFrom surrogates start done (cs.flatMap String.utf8EncodeChar) =
      .ok (done.reverse ++ cs.map CodePoint.ofChar) := by
  induction cs generalizing start done with
  | nil => simp [decodeFrom]
  | cons c cs ih =>
    rw [List.flatMap_cons, decodeFrom_utf8EncodeChar, ih]
    simp

theorem decode_flatMap (surrogates : Bool) (cs : List Char) :
    decode surrogates (cs.flatMap String.utf8EncodeChar) = .ok (cs.map CodePoint.ofChar) :=
  decodeFrom_flatMap surrogates 0 [] cs

theorem toList_toUTF8 (s : String) :
    s.toUTF8.data.toList = s.toList.flatMap String.utf8EncodeChar := by
  conv_lhs => rw [String.toUTF8, ← String.ofList_toList (s := s), String.toByteArray_ofList]
  exact List.toList_data_toByteArray

theorem decodeString_flatMap (cs : List Char) :
    decodeString (cs.flatMap String.utf8EncodeChar) = .ok (String.ofList cs) := by
  have hc : (cs.map CodePoint.ofChar).map (fun p => Char.ofNat p.val) = cs := by
    rw [List.map_map]
    exact (List.map_congr_left fun c _ => Char.ofNat_toNat c).trans (List.map_id cs)
  rw [decodeString, decode_flatMap, Except.map, hc]

end InvocationClient.Text.Utf8
