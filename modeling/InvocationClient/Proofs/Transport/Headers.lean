import Mathlib.Data.List.Forall2
import InvocationClient.Transport.Http

/-! # Readings of header fields

The header fields of an answer are all read as UTF-8, or all as Latin-1 if one of them is not
UTF-8. Fields in ASCII read the same either way.
-/

namespace InvocationClient

namespace Text.Utf8

def IsAscii (bytes : List UInt8) : Prop := ∀ b ∈ bytes, b < 0x80

variable {bytes : List UInt8}

theorem step_of_ascii {surrogates : Bool} {lead : UInt8} (h : lead < 0x80) (rest : List UInt8) :
    step surrogates lead rest = .ok (CodePoint.ofNat lead.toNat, 0) := by
  rw [step, if_pos h]

theorem decodeFrom_of_ascii {surrogates : Bool} (h : IsAscii bytes) (start : Nat)
    (done : List CodePoint) :
    decodeFrom surrogates start done bytes =
      .ok (done.reverse ++ bytes.map fun b => CodePoint.ofNat b.toNat) := by
  induction bytes generalizing start done with
  | nil => simp [decodeFrom]
  | cons lead rest ih =>
    have hl : lead < 0x80 := h lead List.mem_cons_self
    have hr : IsAscii rest := fun b hb => h b (List.mem_cons_of_mem _ hb)
    rw [decodeFrom, step_of_ascii hl]
    simp only [List.drop_zero]
    rw [ih hr]
    simp

end Text.Utf8

namespace Http

open Text Utf8

variable {bytes : List UInt8} {h : List UInt8 × List UInt8} {hs : List (List UInt8 × List UInt8)}
  {field : String × String} {fields : Fields}

theorem decodeString_of_ascii (h : IsAscii bytes) : decodeString bytes = .ok (latin1 bytes) := by
  have hb : ∀ b : UInt8, (CodePoint.ofNat b.toNat).val = b.toNat := fun b =>
    CodePoint.val_ofNat (Nat.lt_trans b.toNat_lt (by decide))
  rw [decodeString, decode, decodeFrom_of_ascii h]
  simp only [Except.map, List.reverse_nil, List.nil_append, List.map_map, latin1]
  congr 2
  exact List.map_congr_left fun b _ => congrArg Char.ofNat (hb b)

/-- Names are compared in lower case, so they are read in it. -/
def lowerName (name : List UInt8) : List UInt8 := name.map lowerByte

theorem lt_128_of_lowerByte {b : UInt8} (h : b < 0x80) : lowerByte b < 0x80 := by
  unfold lowerByte
  split
  · next hb =>
    simp only [Bool.and_eq_true, decide_eq_true_eq, UInt8.le_iff_toNat_le] at hb
    rw [UInt8.lt_iff_toNat_lt, UInt8.toNat_add]
    have h65 : (65 : UInt8).toNat = 65 := rfl
    have h90 : (90 : UInt8).toNat = 90 := rfl
    have h32 : (32 : UInt8).toNat = 32 := rfl
    have h128 : (128 : UInt8).toNat = 128 := rfl
    omega
  · exact h

theorem isAscii_lowerName {name : List UInt8} (ha : IsAscii name) : IsAscii (lowerName name) := by
  intro b hb
  obtain ⟨a, hm, rfl⟩ := List.mem_map.mp hb
  exact lt_128_of_lowerByte (ha a hm)

def InUtf8 (h : List UInt8 × List UInt8) (field : String × String) : Prop :=
  decodeString (lowerName h.1) = .ok field.1 ∧ decodeString h.2 = .ok field.2

def inLatin1 (h : List UInt8 × List UInt8) : String × String := (latin1 (lowerName h.1), latin1 h.2)

def Readable (hs : List (List UInt8 × List UInt8)) : Prop := ∀ h ∈ hs, ∃ field, InUtf8 h field

theorem readable_iff : Readable hs ↔ ∃ fields, List.Forall₂ InUtf8 hs fields := by
  induction hs with
  | nil => exact ⟨fun _ => ⟨[], .nil⟩, fun _ h hm => nomatch hm⟩
  | cons h hs ih =>
    simp only [Readable, List.forall_mem_cons] at ih ⊢
    rw [ih]
    constructor
    · rintro ⟨⟨field, hf⟩, fields, hfs⟩
      exact ⟨field :: fields, .cons hf hfs⟩
    · rintro ⟨_, hfs⟩
      cases hfs with
      | cons hf hfs => exact ⟨⟨_, hf⟩, _, hfs⟩

def readField (h : List UInt8 × List UInt8) : Except DecodingError (String × String) := do
  return (← decodeString (lowerName h.1), ← decodeString h.2)

theorem readField_eq_ok_iff : readField h = .ok field ↔ InUtf8 h field := by
  unfold readField InUtf8
  cases decodeString (lowerName h.1) with
  | error e => simp [bind, Except.bind]
  | ok name =>
    cases decodeString h.2 with
    | error e => simp [bind, Except.bind]
    | ok value => simp [bind, Except.bind, pure, Except.pure, Prod.ext_iff]

theorem mapM_readField_eq_ok_iff :
    hs.mapM readField = .ok fields ↔ List.Forall₂ InUtf8 hs fields := by
  induction hs generalizing fields with
  | nil => cases fields <;> simp [pure, Except.pure]
  | cons h hs ih =>
    rw [List.mapM_cons]
    cases hh : readField h with
    | error e =>
      have hn : ∀ field, ¬ InUtf8 h field := fun field hf => by
        rw [readField_eq_ok_iff.mpr hf] at hh
        cases hh
      cases fields <;> simp [bind, Except.bind, hn]
    | ok field =>
      have hu : ∀ field', InUtf8 h field' ↔ field = field' := fun field' => by
        rw [← readField_eq_ok_iff, hh, Except.ok.injEq]
      cases hs' : hs.mapM readField with
      | error e => cases fields <;> simp [bind, Except.bind, ← ih, hs', hu]
      | ok rest => cases fields <;> simp [bind, Except.bind, pure, Except.pure, ← ih, hs', hu]

theorem decodeFields_of_utf8 (h : List.Forall₂ InUtf8 hs fields) : decodeFields hs = fields := by
  have hm := mapM_readField_eq_ok_iff.mpr h
  dsimp only [decodeFields]
  split
  · next fields' hm' =>
    have hf : Except.ok fields' = Except.ok fields := hm'.symm.trans hm
    exact Except.ok.inj hf
  · next hm' => cases hm'.symm.trans hm

theorem decodeFields_of_readable (h : Readable hs) : List.Forall₂ InUtf8 hs (decodeFields hs) := by
  obtain ⟨fields, hf⟩ := readable_iff.mp h
  rwa [decodeFields_of_utf8 hf]

theorem decodeFields_of_unreadable (h : ¬ Readable hs) : decodeFields hs = hs.map inLatin1 := by
  dsimp only [decodeFields]
  split
  · next fields hm => exact absurd (readable_iff.mpr ⟨fields, mapM_readField_eq_ok_iff.mp hm⟩) h
  · rfl

/-- A header field in one of the two readings. -/
def ReadAs (h : List UInt8 × List UInt8) (field : String × String) : Prop :=
  InUtf8 h field ∨ field = inLatin1 h

theorem decodeFields_readAs (hs : List (List UInt8 × List UInt8)) :
    List.Forall₂ ReadAs hs (decodeFields hs) := by
  by_cases h : Readable hs
  · exact (decodeFields_of_readable h).imp fun _ _ => .inl
  · rw [decodeFields_of_unreadable h, List.forall₂_map_right_iff, List.forall₂_same]
    exact fun _ _ => .inr rfl

theorem ReadAs.name_of_ascii (hr : ReadAs h field) (ha : IsAscii (lowerName h.1)) :
    field.1 = latin1 (lowerName h.1) := by
  rcases hr with ⟨hn, -⟩ | rfl
  · rw [decodeString_of_ascii ha] at hn
    exact (Except.ok.inj hn).symm
  · rfl

theorem ReadAs.value_of_ascii (hr : ReadAs h field) (ha : IsAscii h.2) :
    field.2 = latin1 h.2 := by
  rcases hr with ⟨-, hv⟩ | rfl
  · rw [decodeString_of_ascii ha] at hv
    exact (Except.ok.inj hv).symm
  · rfl

end Http

end InvocationClient
