import InvocationClient.Proofs.Invocation.Metadata
import InvocationClient.Proofs.Text.Utf8
import InvocationClient.Proofs.Transport.Headers

/-! # Responses on the wire

A header field in ASCII goes over the wire byte for byte. Reading an answer puts the names of its
fields into lower case, and other fields may have come in between, but what the fields say about an
invocation stays the same.
-/

namespace InvocationClient

namespace Text.Ascii

def Holds (s : String) : Prop := ∀ c ∈ s.toList, isAscii c = true

instance (s : String) : Decidable (Holds s) :=
  decidable_of_iff (s.toList.all isAscii = true) List.all_eq_true

theorem toNat_lt {s : String} (h : Holds s) : ∀ c ∈ s.toList, c.toNat < 128 := fun c hc => by
  simpa [isAscii] using h c hc

end Text.Ascii

namespace Http

open Metadata (lastValue? lastValue?_cons)
open Text (Ascii.Holds lower lowerChar)
open Text.Utf8 (IsAscii)

variable {s name value : String} {b : UInt8} {bytes : List UInt8} {fields read : Fields}
  {raw : List (List UInt8 × List UInt8)}

section Texts

def wire (s : String) : List UInt8 := s.toUTF8.data.toList

theorem wire_eq_flatMap (s : String) : wire s = s.toList.flatMap String.utf8EncodeChar :=
  Text.Utf8.toList_toUTF8 s

theorem wire_of_ascii (h : Ascii.Holds s) :
    wire s = s.toList.map fun c => UInt8.ofNat c.toNat := by
  rw [wire_eq_flatMap, List.map_eq_flatMap]
  exact List.flatMap_congr fun c hc =>
    Text.Utf8.utf8EncodeChar_of_ascii (Text.Ascii.toNat_lt h c hc)

theorem toNat_byte {n : Nat} (h : n < 128) : (UInt8.ofNat n).toNat = n := by
  rw [UInt8.toNat_ofNat', Nat.mod_eq_of_lt (by omega)]

theorem isAscii_wire (h : Ascii.Holds s) : IsAscii (wire s) := by
  rw [wire_of_ascii h]
  intro b hb
  obtain ⟨c, hc, rfl⟩ := List.mem_map.mp hb
  have hl : c.toNat < 128 := Text.Ascii.toNat_lt h c hc
  rw [UInt8.lt_iff_toNat_lt, toNat_byte hl]
  exact hl

theorem latin1_wire (h : Ascii.Holds s) : latin1 (wire s) = s := by
  have hc : ∀ c ∈ s.toList, Char.ofNat (UInt8.ofNat c.toNat).toNat = c := fun c hc => by
    rw [toNat_byte (Text.Ascii.toNat_lt h c hc), Char.ofNat_toNat]
  have hm : (s.toList.map fun c => Char.ofNat (UInt8.ofNat c.toNat).toNat) = s.toList :=
    (List.map_congr_left hc).trans (List.map_id _)
  rw [wire_of_ascii h, latin1, List.map_map]
  exact (congrArg String.ofList hm).trans String.ofList_toList

theorem lowerChar_lowerByte (h : b < 0x80) :
    lowerChar (Char.ofNat (lowerByte b).toNat) = lowerChar (Char.ofNat b.toNat) := by
  have ha : ∀ n < 128, lowerChar (Char.ofNat (lowerByte (UInt8.ofNat n)).toNat) =
      lowerChar (Char.ofNat (UInt8.ofNat n).toNat) := by decide +kernel
  have hb := ha b.toNat h
  rwa [UInt8.ofNat_toNat] at hb

theorem lower_latin1_lowerName (h : IsAscii bytes) :
    lower (latin1 (lowerName bytes)) = lower (latin1 bytes) := by
  simp only [lower, latin1, lowerName, String.toList_ofList, List.map_map, List.flatMap_map]
  exact congrArg String.ofList (List.flatMap_congr fun b hb => lowerChar_lowerByte (h b hb))

end Texts

/-- The header fields of an answer, as bytes, bring those of a response: each in its place, with
others in between that describe no invocation. -/
inductive Brings : List (List UInt8 × List UInt8) → Fields → Prop where
  | nil : Brings [] []
  | given {name value : String} {raw : List (List UInt8 × List UInt8)} {fields : Fields} :
      Ascii.Holds name → Ascii.Holds value → Brings raw fields →
      Brings ((wire name, wire value) :: raw) ((name, value) :: fields)
  | added {h : List UInt8 × List UInt8} {raw : List (List UInt8 × List UInt8)} {fields : Fields} :
      IsAscii h.1 → Metadata.Field.ofName? (latin1 h.1) = none → Brings raw fields →
      Brings (h :: raw) fields

/-- An answer over the wire that stands for a response. -/
structure Answer.Conveys (a : Answer) (response : Response) : Prop where
  status : a.status = response.status
  headers : Brings a.headers response.headers
  body : a.body = response.body

theorem ofName?_of_readAs {h : List UInt8 × List UInt8} {field : String × String}
    (hr : ReadAs h field) (ha : IsAscii h.1) :
    Metadata.Field.ofName? field.1 = Metadata.Field.ofName? (latin1 h.1) := by
  rw [hr.name_of_ascii (isAscii_lowerName ha)]
  exact Metadata.ofName?_congr (lower_latin1_lowerName ha)

theorem lastValue?_of_readAs (hb : Brings raw fields) (hr : List.Forall₂ ReadAs raw read)
    (f : Metadata.Field) : lastValue? f read = lastValue? f fields := by
  induction hb generalizing read with
  | nil =>
    cases hr
    rfl
  | given hn hv _ ih =>
    cases hr with
    | cons hh hr =>
      have hname := ofName?_of_readAs hh (isAscii_wire hn)
      have hvalue := hh.value_of_ascii (isAscii_wire hv)
      rw [latin1_wire hn] at hname
      rw [latin1_wire hv] at hvalue
      rw [lastValue?_cons, lastValue?_cons, ih hr, hname, hvalue]
  | added ha hn _ ih =>
    cases hr with
    | cons hh hr =>
      rw [lastValue?_cons, ih hr, ofName?_of_readAs hh ha, hn, if_neg (by simp), Option.or_none]

theorem lastValue?_decodeFields (hb : Brings raw fields) (f : Metadata.Field) :
    lastValue? f (decodeFields raw) = lastValue? f fields :=
  lastValue?_of_readAs hb (decodeFields_readAs raw) f

namespace Connection

variable {c : Connection} {r : Request} {a : Answer}

/-- The connection takes the request, and the answer to it is `a`. -/
def Gives (c : Connection) (r : Request) (a : Answer) : Prop :=
  c.next = .answer a ∧ ∃ response, (c.execute r).outcome = .ok response

theorem outcome_of_gives (h : c.Gives r a) :
    (c.execute r).outcome = .ok ⟨a.status, decodeFields a.headers, a.body⟩ := by
  obtain ⟨hn, response, ho⟩ := h
  simp only [execute] at ho ⊢
  cases hf : c.refusal? r with
  | some f => simp [hf] at ho
  | none =>
    simp only [hf, hn, receive] at ho ⊢
    split at ho
    · cases ho
    · next hu => rw [if_neg hu]

end Connection

end Http

end InvocationClient
