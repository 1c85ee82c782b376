import InvocationClient.Json.Document
import InvocationClient.Proofs.Json.Reading
import InvocationClient.Proofs.Json.Sound
import InvocationClient.Proofs.Text.Utf8

/-! # Documents as they are read

What is written of a value is a document of printable ASCII. So its bytes are told as UTF-8 by those
at its front, and the document reads as the value, given the levels that the value needs. Documents
that others write are told as UTF-8 too, as they hold no zeros and begin in ASCII, and so they are
read as what they denote.
-/

namespace InvocationClient.Json

open Text

variable {v w : Json} {items : List Json} {members : List (List CodePoint × Json)} {limit : Nat}
  {cs : List Char} {bytes : List UInt8} {b : UInt8}

section Printable

theorem printed_repr (n : Int) : Printed n.repr.toList := by
  rw [toList_repr]
  refine printed_append.mpr ⟨?_, fun d hd => ?_⟩
  · cases decide (n < 0) <;> decide
  · have hb : 48 ≤ d.toNat ∧ d.toNat ≤ 57 := Char.isDigit_iff_toNat.mp
      (Nat.isDigit_of_mem_toDigits (by decide) (by decide) hd)
    omega

theorem printed_itemChars (h : ∀ v ∈ items, Printed (chars v)) : Printed (itemChars items) := by
  induction items with
  | nil => decide
  | cons v vs ih =>
    obtain ⟨hv, hvs⟩ := List.forall_mem_cons.mp h
    cases vs with
    | nil => exact printed_append.mpr ⟨hv, by decide⟩
    | cons w ws =>
      rw [itemChars_more]
      exact printed_append.mpr ⟨hv, printed_cons.mpr ⟨by decide, printed_cons.mpr
        ⟨by decide, ih hvs⟩⟩⟩

theorem printed_memberChars (h : ∀ m ∈ members, Printed (chars m.2)) :
    Printed (memberChars members) := by
  induction members with
  | nil => decide
  | cons m ms ih =>
    obtain ⟨hv, hvs⟩ := List.forall_mem_cons.mp h
    have hm : ∀ {cs : List Char}, Printed cs →
        Printed (quote m.1 ++ ':' :: ' ' :: (chars m.2 ++ cs)) := fun hcs =>
      printed_append.mpr ⟨printed_quote m.1, printed_cons.mpr ⟨by decide, printed_cons.mpr
        ⟨by decide, printed_append.mpr ⟨hv, hcs⟩⟩⟩⟩
    cases ms with
    | nil =>
      rw [memberChars_one]
      exact hm (by decide)
    | cons m' ms =>
      rw [memberChars_more]
      exact hm (printed_cons.mpr ⟨by decide, printed_cons.mpr ⟨by decide, ih hvs⟩⟩)

theorem Faithful.printed (h : Faithful v) : Printed (chars v) := by
  induction h with
  | null => decide
  | bool b => cases b <;> decide
  | integer => exact printed_repr _
  | string => exact printed_quote _
  | array _ ih => exact printed_cons.mpr ⟨by decide, printed_itemChars ih⟩
  | object _ _ _ ih => exact printed_cons.mpr ⟨by decide, printed_memberChars ih⟩

end Printable

section Bytes

/-- Bytes of characters that can be seen, or of spaces. -/
def PrintedBytes (bytes : List UInt8) : Prop := ∀ b ∈ bytes, 0x20 ≤ b ∧ b < 0x7f

theorem printedBytes_flatMap (h : Printed cs) :
    PrintedBytes (cs.flatMap String.utf8EncodeChar) := by
  intro b hb
  obtain ⟨c, hc, hm⟩ := List.mem_flatMap.mp hb
  obtain ⟨hl, hu⟩ := h c hc
  rw [Utf8.utf8EncodeChar_of_ascii (by omega), List.mem_singleton] at hm
  have hn : b.toNat = c.toNat := by
    rw [hm]
    exact UInt8.toNat_ofNat_of_lt' (show c.toNat < 256 by omega)
  rw [UInt8.le_iff_toNat_le, UInt8.lt_iff_toNat_lt, hn]
  exact ⟨hl, hu⟩

theorem markOf?_eq_none (h : ∀ b ∈ bytes.head?, b ≠ 0 ∧ b < 0x80) : markOf? bytes = none := by
  unfold markOf?
  split
  · exact absurd rfl (h 0x00 rfl).1
  · exact absurd (h 0xff rfl).2 (by decide)
  · exact absurd (h 0xfe rfl).2 (by decide)
  · exact absurd (h 0xff rfl).2 (by decide)
  · exact absurd (h 0xef rfl).2 (by decide)
  · rfl

theorem encodingOfZeros_eq_utf8 (h : ∀ b ∈ bytes, b ≠ 0) : encodingOfZeros bytes = .utf8 := by
  unfold encodingOfZeros
  split
  · next a b c d rest => rw [if_neg (h a (by simp)), if_neg (h b (by simp))]
  · next a b => rw [if_neg (h a (by simp)), if_neg (h b (by simp))]
  · rfl

/-- Characters of which the first is in ASCII and none is zero are told to be in UTF-8. -/
theorem decode_flatMap (hz : '\x00' ∉ cs) (ha : ∀ c ∈ cs.head?, c.toNat < 128) :
    decode (cs.flatMap String.utf8EncodeChar) = .ok (points cs) := by
  have hb : ∀ b ∈ cs.flatMap String.utf8EncodeChar, b ≠ 0 := by
    intro b hb
    obtain ⟨c, hc, hm⟩ := List.mem_flatMap.mp hb
    exact Utf8.ne_zero_of_mem_utf8EncodeChar (fun he => hz (he ▸ hc)) b hm
  have hm : markOf? (cs.flatMap String.utf8EncodeChar) = none := by
    cases cs with
    | nil => rfl
    | cons c cs =>
      have hc := ha c rfl
      have hn : (UInt8.ofNat c.toNat).toNat = c.toNat :=
        UInt8.toNat_ofNat_of_lt' (show c.toNat < 256 by omega)
      apply markOf?_eq_none
      rw [List.flatMap_cons, Utf8.utf8EncodeChar_of_ascii hc] at hb ⊢
      rintro _ ⟨⟩
      refine ⟨hb _ List.mem_cons_self, ?_⟩
      rw [UInt8.lt_iff_toNat_lt, hn]
      exact hc
  rw [decode, hm, encodingOfZeros_eq_utf8 hb]
  exact Utf8.decode_flatMap true cs

theorem decode_marked (cs : List Char) :
    decode (0xef :: 0xbb :: 0xbf :: cs.flatMap String.utf8EncodeChar) = .ok (points cs) :=
  Utf8.decode_flatMap true cs

theorem decode_printed (h : Printed cs) :
    decode (cs.flatMap String.utf8EncodeChar) = .ok (points cs) := by
  refine decode_flatMap (fun hz => absurd (h _ hz).1 (by decide)) fun c hc => ?_
  exact Nat.lt_succ_of_lt (h c (List.mem_of_mem_head? hc)).2

end Bytes

theorem readDocument_chars (h : Faithful v) (hd : depth v ≤ limit) :
    readDocument limit (points (chars v)) = .ok v := by
  have hs : skip (points (chars v)) = points (chars v) := by
    simpa using skip_of_opens (opens_chars h) []
  have hl : (points (chars v)).length = (chars v).length := List.length_map _
  have hv : readValue (2 * (chars v).length + 1) limit (points (chars v)) = .ok (v, []) := by
    simpa using h.reads _ limit [] (Nat.le_succ _) hd closed_nil
  rw [readDocument, hs, hl, hv]
  rfl

theorem toList_render (v : Json) :
    v.render.toUTF8.data.toList = (chars v).flatMap String.utf8EncodeChar := by
  rw [Utf8.toList_toUTF8, render, String.toList_ofList]

theorem Faithful.lt_of_mem_render (h : Faithful v) :
    ∀ b ∈ v.render.toUTF8.data.toList, b < 0x80 := by
  rw [toList_render]
  intro b hb
  exact Nat.lt_succ_of_lt (printedBytes_flatMap h.printed b hb).2

theorem readBytes_render (h : Faithful v) (hd : depth v ≤ limit) :
    readBytes limit v.render.toUTF8.data.toList = .ok v := by
  rw [readBytes, toList_render, decode_printed h.printed]
  change (readDocument limit (points (chars v))).mapError _ = _
  rw [readDocument_chars h hd]
  rfl

section Zeros

/-! A text that denotes a value has no zeros, whoever writes it. -/

theorem zero_not_mem_digits (h : ∀ c ∈ cs, c.isDigit = true) : '\x00' ∉ cs := fun hz =>
  absurd (h _ hz) (by decide)

theorem Spaces.zero_not_mem (h : Spaces cs) : '\x00' ∉ cs := fun hz => absurd (h _ hz) (by decide)

theorem HexDigit.ne_zero {c : Char} {n : Nat} (h : HexDigit c n) : c ≠ '\x00' := by
  have hd : ∀ n < 16, hexDigit n ≠ '\x00' ∧ (hexDigit n).toUpper ≠ '\x00' := by decide
  cases h with
  | lower hn => exact (hd n hn).1
  | upper hn => exact (hd n hn).2

theorem EscapedUnit.zero_not_mem {n : Nat} (h : EscapedUnit cs n) : '\x00' ∉ cs := by
  cases h with
  | digits ha hb hc hd =>
    have hs : '\x00' ∉ ['\\', 'u'] := by decide
    simp only [List.mem_cons, List.not_mem_nil, or_false, not_or] at hs ⊢
    exact ⟨hs.1, hs.2, ha.ne_zero.symm, hb.ne_zero.symm, hc.ne_zero.symm, hd.ne_zero.symm⟩

theorem StandsFor.zero_not_mem {c : Char} (h : StandsFor cs c) : '\x00' ∉ cs := by
  cases h with
  | itself _ _ hc =>
    rw [List.mem_singleton]
    rintro rfl
    exact absurd hc (by decide)
  | @short e c he =>
    have hs : '\x00' ∉ '\\' :: shortEscapes.map Prod.fst := by decide
    have hm : e ∈ shortEscapes.map Prod.fst := List.mem_map_of_mem he
    intro hz
    rcases List.mem_cons.mp hz with hz | hz
    · exact hs (List.mem_cons.mpr (.inl hz))
    · exact hs (List.mem_cons_of_mem _ (List.mem_singleton.mp hz ▸ hm))
  | unit hu => exact hu.zero_not_mem
  | pair hu hl => exact List.not_mem_append hu.zero_not_mem hl.zero_not_mem

theorem Quotes.zero_not_mem {s : List Char} (h : Quotes cs s) : '\x00' ∉ cs := by
  have hq : '\x00' ∉ ['"'] := by decide
  cases h with
  | @quoted pieces hp =>
    have hf : '\x00' ∉ (pieces.map Prod.fst).flatten := by
      intro hz
      obtain ⟨t, ht, hz⟩ := List.mem_flatten.mp hz
      obtain ⟨piece, hm, rfl⟩ := List.mem_map.mp ht
      exact (hp piece hm).zero_not_mem hz
    exact List.not_mem_append hq (List.not_mem_append hf hq)

theorem zero_not_mem_commaSeparated {ts : List (List Char)} (h : ∀ t ∈ ts, '\x00' ∉ t) :
    '\x00' ∉ commaSeparated ts := by
  have hc : '\x00' ∉ [','] := by decide
  induction ts with
  | nil => exact List.not_mem_nil
  | cons t ts ih =>
    obtain ⟨ht, hts⟩ := List.forall_mem_cons.mp h
    cases ts with
    | nil => rwa [commaSeparated_singleton]
    | cons t' ts =>
      rw [commaSeparated_cons_cons]
      exact List.not_mem_append ht (List.not_mem_append hc (ih hts))

theorem Names.zero_not_mem {name : List Char} (h : Names cs name) : '\x00' ∉ cs := by
  cases h with
  | padded hb hq ha =>
    exact List.not_mem_append (List.not_mem_append hb.zero_not_mem hq.zero_not_mem) ha.zero_not_mem

theorem Denotes.zero_not_mem (h : Denotes cs v) : '\x00' ∉ cs := by
  have hw : ∀ mark : Char, mark ≠ '\x00' → '\x00' ∉ [mark] := fun mark hn hz =>
    hn (List.mem_singleton.mp hz).symm
  induction h with
  | null => decide
  | bool b => cases b <;> decide
  | natural h => exact zero_not_mem_digits h.isDigit
  | negative h => exact List.not_mem_append (hw '-' (by decide)) (zero_not_mem_digits h.isDigit)
  | string h => exact h.zero_not_mem
  | emptyArray h =>
    exact List.not_mem_append (hw '[' (by decide))
      (List.not_mem_append h.zero_not_mem (hw ']' (by decide)))
  | array _ _ ih =>
    exact List.not_mem_append (hw '[' (by decide)) (List.not_mem_append
      (zero_not_mem_commaSeparated (List.forall_mem_map.mpr ih)) (hw ']' (by decide)))
  | emptyObject h =>
    exact List.not_mem_append (hw '\x7b' (by decide))
      (List.not_mem_append h.zero_not_mem (hw '\x7d' (by decide)))
  | object _ hn _ _ ih =>
    have hm : ∀ t ∈ List.map Member.text _, '\x00' ∉ t :=
      List.forall_mem_map.mpr fun m hm => List.not_mem_append (hn m hm).zero_not_mem
        (List.not_mem_append (hw ':' (by decide)) (ih m hm))
    exact List.not_mem_append (hw '\x7b' (by decide)) (List.not_mem_append
      (zero_not_mem_commaSeparated hm) (hw '\x7d' (by decide)))
  | padded hb _ ha ih =>
    exact List.not_mem_append (List.not_mem_append hb.zero_not_mem ih) ha.zero_not_mem

end Zeros

/-- Whoever wrote a document, it is read as what it denotes, if it is read at all. -/
theorem Denotes.eq_of_readDocument (h : Denotes cs v)
    (hr : readDocument limit (points cs) = .ok w) : w = v := by
  have he : skip (points cs) = skip (points cs ++ []) := by rw [List.append_nil]
  rw [readDocument, he] at hr
  split at hr
  · cases hr
  next u rest hv =>
  obtain ⟨rfl, -⟩ := h.readsOnlyAs closed_nil.ends hv
  split at hr
  · exact (Except.ok.inj hr).symm
  · cases hr

theorem Denotes.flatMap_ne_nil (h : Denotes cs v) : cs.flatMap String.utf8EncodeChar ≠ [] := by
  intro hn
  cases h.starts with
  | @opens before more c _ _ _ _ =>
    have hc := List.flatMap_eq_nil_iff.mp hn c (List.mem_append_right _ List.mem_cons_self)
    exact String.utf8EncodeChar_ne_nil hc

theorem eq_ok_of_mapError {α δ ε : Type} {r : Except ε α} {f : ε → δ} {a : α}
    (h : r.mapError f = .ok a) : r = .ok a := by
  cases r with
  | error e => cases h
  | ok b =>
    cases h
    rfl

theorem readDocument_of_readBytes {s : List CodePoint} (hs : decode bytes = .ok s)
    (h : readBytes limit bytes = .ok w) : readDocument limit s = .ok w := by
  rw [readBytes, hs] at h
  exact eq_ok_of_mapError h

theorem Denotes.eq_of_readBytes (h : Denotes cs v)
    (hr : readBytes limit (cs.flatMap String.utf8EncodeChar) = .ok w) : w = v :=
  h.eq_of_readDocument
    (readDocument_of_readBytes (decode_flatMap h.zero_not_mem h.starts.head?_lt) hr)

theorem Denotes.eq_of_readBytes_marked (h : Denotes cs v)
    (hr : readBytes limit (0xef :: 0xbb :: 0xbf :: cs.flatMap String.utf8EncodeChar) = .ok w) :
    w = v :=
  h.eq_of_readDocument (readDocument_of_readBytes (decode_marked cs) hr)

theorem sound_of_readBytes (h : readBytes limit bytes = .ok w) : Sound w := by
  cases hs : decode bytes with
  | error e =>
    rw [readBytes, hs] at h
    cases h
  | ok s => exact sound_of_readDocument (readDocument_of_readBytes hs h)

end InvocationClient.Json
