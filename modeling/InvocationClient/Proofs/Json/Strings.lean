import InvocationClient.Json.Printer
import InvocationClient.Json.Reader
import InvocationClient.Proofs.Json.Grammar
import Mathlib.Tactic.SplitIfs

/-! # Strings that are read back

A string reads as the characters it quotes, in whatever form each of them is written, and ends with
its own closing quote. What is written of a string quotes its code points, as long as none of them is
a surrogate. It is printable ASCII.
-/

namespace InvocationClient.Json

open Text

variable {room n high low : Nat} {opened done tail rest s : List CodePoint} {afterHigh : Bool}
  {p : CodePoint} {c e : Char} {cs ds name : List Char}

section Units

theorem hexValue?_of_hexDigit (h : HexDigit c n) : hexValue? (CodePoint.ofChar c) = some n := by
  have ha : ∀ n < 16, hexValue? (CodePoint.ofChar (hexDigit n)) = some n ∧
      hexValue? (CodePoint.ofChar (hexDigit n).toUpper) = some n := by decide +kernel
  cases h with
  | lower h => exact (ha _ h).1
  | upper h => exact (ha _ h).2

theorem readString_unit (h : EscapedUnit cs n) (ht : tail ≠ []) :
    readString room opened afterHigh done (points cs ++ tail) =
      readString room opened (CodePoint.ofNat n).isHighSurrogate
        (pushUnit afterHigh done (CodePoint.ofNat n)) tail := by
  have hq : is '"' (CodePoint.ofChar '\\') = false := by decide
  have hb : is '\\' (CodePoint.ofChar '\\') = true := by decide
  have hu : is 'u' (CodePoint.ofChar 'u') = true := by decide
  cases h with
  | digits ha hb' hc hd =>
    rw [readString.eq_def]
    simp only [points_cons, points_nil, List.cons_append, List.nil_append, hq, hb, hu, unit?,
      hexValue?_of_hexDigit ha, hexValue?_of_hexDigit hb', hexValue?_of_hexDigit hc,
      hexValue?_of_hexDigit hd, Option.bind_eq_bind, Option.bind_some, Option.pure_def,
      List.isEmpty_eq_false_iff.mpr ht, if_true, Bool.false_eq_true, if_false]

theorem hexDigits_four (n : Nat) : hexDigits 4 n =
    [hexDigit (n / 16 / 16 / 16 % 16), hexDigit (n / 16 / 16 % 16), hexDigit (n / 16 % 16),
      hexDigit (n % 16)] := rfl

theorem escapedUnit_escapeUnit (h : n < 0x10000) : EscapedUnit (escapeUnit n) n := by
  have hd : ∀ m : Nat, HexDigit (hexDigit (m % 16)) (m % 16) := fun m =>
    .lower (Nat.mod_lt m (by decide))
  have hu := EscapedUnit.digits (hd (n / 16 / 16 / 16)) (hd (n / 16 / 16)) (hd (n / 16)) (hd n)
  have hv : ((n / 16 / 16 / 16 % 16 * 16 + n / 16 / 16 % 16) * 16 + n / 16 % 16) * 16 + n % 16 =
      n := by omega
  rwa [hv] at hu

end Units

section Forms

theorem is_eq_false_iff {c : Char} : is c p = false ↔ p.val ≠ c.toNat := by
  rw [is, beq_eq_false_iff_ne]

theorem is_iff {c : Char} : is c p = true ↔ p = CodePoint.ofChar c := by
  rw [is, beq_iff_eq, Fin.ext_iff]
  rfl

theorem is_eq_false_of_ne (h : e ≠ c) : is e (CodePoint.ofChar c) = false :=
  is_eq_false_iff.mpr fun hv => h (Char.toNat_inj.mp hv).symm

theorem readString_short (h : (e, c) ∈ shortEscapes) :
    readString room opened afterHigh done (points ['\\', e] ++ tail) =
      readString room opened false (CodePoint.ofChar c :: done) tail := by
  have hq : is '"' (CodePoint.ofChar '\\') = false := by decide
  have hb : is '\\' (CodePoint.ofChar '\\') = true := by decide
  have ha : shortEscapes.all (fun m => !is 'u' (CodePoint.ofChar m.1) &&
      shortEscape? (CodePoint.ofChar m.1) == some (CodePoint.ofChar m.2)) = true := by decide
  have he := List.all_eq_true.mp ha _ h
  rw [Bool.and_eq_true, Bool.not_eq_true', beq_iff_eq] at he
  rw [readString.eq_def]
  simp only [points_cons, points_nil, List.cons_append, List.nil_append, hq, hb, he.1, he.2,
    if_true, Bool.false_eq_true, if_false]

theorem readString_itself (hq : c ≠ '"') (hb : c ≠ '\\') (hc : 0x20 ≤ c.toNat) :
    readString room opened afterHigh done (CodePoint.ofChar c :: tail) =
      readString room opened false (CodePoint.ofChar c :: done) tail := by
  have hn : ¬ (CodePoint.ofChar c).val < 0x20 := Nat.not_lt.mpr hc
  rw [readString.eq_def]
  simp only [is_eq_false_of_ne hq.symm, is_eq_false_of_ne hb.symm, if_neg hn, Bool.false_eq_true,
    if_false]

theorem not_isHighSurrogate (h : p.val.isValidChar) : p.isHighSurrogate = false := by
  simp only [CodePoint.isHighSurrogate, Bool.and_eq_false_iff, decide_eq_false_iff_not]
  rcases h with h | h <;> omega

/-- What does not stand behind a high surrogate stays by itself. -/
theorem pushUnit_alone (done : List CodePoint) (u : CodePoint) :
    pushUnit false done u = u :: done := by
  cases done <;> rfl

theorem readString_pair (hcs : EscapedUnit cs high) (hds : EscapedUnit ds low)
    (hh : 0xd800 ≤ high ∧ high < 0xdc00) (hl : 0xdc00 ≤ low ∧ low < 0xe000)
    (hv : p.val = 0x10000 + (high - 0xd800) * 0x400 + (low - 0xdc00)) (ht : tail ≠ []) :
    readString room opened false done (points (cs ++ ds) ++ tail) =
      readString room opened false (p :: done) tail := by
  have hvh : (CodePoint.ofNat high).val = high := CodePoint.val_ofNat (by omega)
  have hvl : (CodePoint.ofNat low).val = low := CodePoint.val_ofNat (by omega)
  have hhigh : (CodePoint.ofNat high).isHighSurrogate = true := by
    simp only [CodePoint.isHighSurrogate, hvh, Bool.and_eq_true, decide_eq_true_eq]
    omega
  have hlow : (CodePoint.ofNat low).isLowSurrogate = true := by
    simp only [CodePoint.isLowSurrogate, hvl, Bool.and_eq_true, decide_eq_true_eq]
    omega
  have hnot : (CodePoint.ofNat low).isHighSurrogate = false := by
    simp only [CodePoint.isHighSurrogate, hvl, Bool.and_eq_false_iff, decide_eq_false_iff_not]
    omega
  have hj : (CodePoint.ofNat high).joined (CodePoint.ofNat low) = p := by
    rw [CodePoint.joined, hvh, hvl, ← hv, CodePoint.ofNat_val]
  -- the first escape needs something behind it, which is the second one
  have hu : points ds ++ tail ≠ [] := fun h => ht (List.append_eq_nil_iff.mp h).2
  rw [points_append, List.append_assoc, readString_unit hcs hu, readString_unit hds ht, hhigh,
    hnot, ← hj, pushUnit_alone, pushUnit, hlow]
  rfl

/-- One character is read, whatever its form and whatever is read next. -/
theorem readString_standsFor (h : StandsFor cs c) (ht : tail ≠ []) :
    readString room opened false done (points cs ++ tail) =
      readString room opened false (CodePoint.ofChar c :: done) tail := by
  cases h with
  | itself hq hb hc => exact readString_itself hq hb hc
  | short hm => exact readString_short hm
  | unit hu =>
    have hs : (CodePoint.ofChar c).isHighSurrogate = false := not_isHighSurrogate c.valid
    rw [readString_unit hu ht, CodePoint.ofNat_toNat, hs, pushUnit_alone]
  | pair hu hl hh hl' hv => exact readString_pair hu hl hh hl' hv ht

theorem readString_pieces {pieces : List (List Char × Char)}
    (h : ∀ piece ∈ pieces, StandsFor piece.1 piece.2) :
    readString room opened false done
        (points (pieces.map Prod.fst).flatten ++ CodePoint.ofChar '"' :: rest) =
      .ok (done.reverse ++ points (pieces.map Prod.snd), rest) := by
  have hq : is '"' (CodePoint.ofChar '"') = true := by decide
  induction pieces generalizing done with
  | nil =>
    rw [List.map_nil, List.flatten_nil, points_nil, List.nil_append, readString.eq_def,
      List.map_nil, points_nil, List.append_nil]
    exact if_pos hq
  | cons piece pieces ih =>
    obtain ⟨hp, hps⟩ := List.forall_mem_cons.mp h
    rw [List.map_cons, List.flatten_cons, points_append, List.append_assoc,
      readString_standsFor hp (by simp), ih hps]
    simp

theorem readQuoted_quotes (h : Quotes cs name) :
    readQuoted room (points cs ++ rest) = .ok (points name, rest) := by
  cases h with
  | quoted hp =>
    simp only [readQuoted, points_cons, points_append, List.cons_append, List.tail_cons,
      List.append_assoc, points_nil, List.nil_append]
    exact readString_pieces hp

end Forms

section Written

def shortLetters : List Char := ['"', '\\', 'b', 'f', 'n', 'r', 't']

/-- The forms in which a code point is written. -/
inductive WrittenAs (p : CodePoint) : List Char → Prop where
  | short {e : Char} : e ∈ shortLetters → shortEscape? (CodePoint.ofChar e) = some p →
      WrittenAs p ['\\', e]
  | itself : p.val ≠ 0x22 → p.val ≠ 0x5c → 0x20 ≤ p.val → p.val < 0x7f →
      WrittenAs p [Char.ofNat p.val]
  | unit : p.val < 0x10000 → WrittenAs p (escapeUnit p.val)
  | pair : 0x10000 ≤ p.val → WrittenAs p
      (escapeUnit (0xd800 + (p.val - 0x10000) / 0x400) ++
        escapeUnit (0xdc00 + (p.val - 0x10000) % 0x400))

theorem writtenAs_escape (p : CodePoint) : WrittenAs p (escape p) := by
  have short : ∀ {q : CodePoint} {e : Char}, p.val = q.val → e ∈ shortLetters →
      shortEscape? (CodePoint.ofChar e) = some q → WrittenAs p ['\\', e] := fun hv hm he => by
    rw [Fin.ext hv]
    exact .short hm he
  unfold escape
  split_ifs with hq hb hn hr ht hf hd hi hu
  · exact short (q := 0x22) hq (by decide) (by decide)
  · exact short (q := 0x5c) hb (by decide) (by decide)
  · exact short (q := 0x0a) hn (by decide) (by decide)
  · exact short (q := 0x0d) hr (by decide) (by decide)
  · exact short (q := 0x09) ht (by decide) (by decide)
  · exact short (q := 0x0c) hf (by decide) (by decide)
  · exact short (q := 0x08) hd (by decide) (by decide)
  · exact .itself hq hb hi.1 hi.2
  · exact .unit hu
  · exact .pair (Nat.le_of_not_lt hu)

theorem standsFor_escape (h : p.val.isValidChar) : StandsFor (escape p) (Char.ofNat p.val) := by
  have hp : CodePoint.ofChar (Char.ofNat p.val) = p := CodePoint.ofChar_ofNat h
  have hn : (Char.ofNat p.val).toNat = p.val := congrArg Fin.val hp
  have hw := writtenAs_escape p
  generalize escape p = cs at hw ⊢
  cases hw with
  | short hm he =>
    have ha : shortLetters.all (fun e => (shortEscape? (CodePoint.ofChar e)).all fun q =>
        (e, Char.ofNat q.val) ∈ shortEscapes) = true := by decide
    have hs := List.all_eq_true.mp ha _ hm
    rw [he] at hs
    exact .short (of_decide_eq_true hs)
  | itself hq hb hc _ =>
    refine .itself (fun h => hq ?_) (fun h => hb ?_) (hn.symm ▸ hc)
    · rw [← hn, h]
      rfl
    · rw [← hn, h]
      rfl
  | unit hu =>
    refine .unit ?_
    rw [hn]
    exact escapedUnit_escapeUnit hu
  | pair hl =>
    have hlt := p.isLt
    exact .pair (escapedUnit_escapeUnit (by omega)) (escapedUnit_escapeUnit (by omega))
      (by omega) (by omega) (by omega)

theorem quotes_quote (h : Scalars s) : Quotes (quote s) (s.map fun p => Char.ofNat p.val) := by
  have hp : ∀ piece ∈ s.map (fun p => (escape p, Char.ofNat p.val)), StandsFor piece.1 piece.2 :=
    List.forall_mem_map.mpr fun p hm => standsFor_escape (h p hm)
  have hq := Quotes.quoted hp
  rw [List.map_map, List.map_map] at hq
  rw [quote, List.flatMap, List.cons_append]
  exact hq

theorem points_ofNat (h : Scalars s) : points (s.map fun p => Char.ofNat p.val) = s := by
  rw [points, List.map_map]
  exact (List.map_congr_left fun p hm => CodePoint.ofChar_ofNat (h p hm)).trans (List.map_id s)

theorem readQuoted_quote (h : Scalars s) :
    readQuoted room (points (quote s) ++ rest) = .ok (s, rest) := by
  rw [readQuoted_quotes (quotes_quote h), points_ofNat h]

end Written

section Printable

/-- Characters of ASCII that can be seen, or spaces. -/
def Printed (cs : List Char) : Prop := ∀ c ∈ cs, 0x20 ≤ c.toNat ∧ c.toNat < 0x7f

instance (cs : List Char) : Decidable (Printed cs) :=
  decidable_of_iff (cs.all (fun c => decide (0x20 ≤ c.toNat ∧ c.toNat < 0x7f)) = true)
    (by simp [Printed])

theorem printed_append : Printed (cs ++ ds) ↔ Printed cs ∧ Printed ds := List.forall_mem_append

theorem printed_cons : Printed (c :: cs) ↔ (0x20 ≤ c.toNat ∧ c.toNat < 0x7f) ∧ Printed cs :=
  List.forall_mem_cons

theorem printed_escapeUnit (n : Nat) : Printed (escapeUnit n) := by
  have hd : ∀ m < 16, Printed [hexDigit m] := by decide
  have hm : ∀ m : Nat, Printed [hexDigit (m % 16)] := fun m => hd _ (Nat.mod_lt m (by decide))
  have hs : Printed ['\\', 'u'] := by decide
  rw [escapeUnit, hexDigits_four]
  exact printed_append.mpr ⟨hs, printed_append.mpr ⟨hm _, printed_append.mpr ⟨hm _,
    printed_append.mpr ⟨hm _, hm _⟩⟩⟩⟩

theorem printed_escape (p : CodePoint) : Printed (escape p) := by
  have hw := writtenAs_escape p
  generalize escape p = cs at hw ⊢
  cases hw with
  | short hm _ =>
    have hl : Printed shortLetters := by decide
    exact printed_cons.mpr ⟨by decide, List.forall_mem_singleton.mpr (hl _ hm)⟩
  | itself _ _ hc hl =>
    have hv : p.val.isValidChar := .inl (by omega)
    have hp : (Char.ofNat p.val).toNat = p.val := congrArg Fin.val (CodePoint.ofChar_ofNat hv)
    refine List.forall_mem_singleton.mpr ?_
    rw [hp]
    exact ⟨hc, hl⟩
  | unit => exact printed_escapeUnit _
  | pair => exact printed_append.mpr ⟨printed_escapeUnit _, printed_escapeUnit _⟩

theorem printed_quote (s : List CodePoint) : Printed (quote s) := by
  have hq : Printed ['"'] := by decide
  have hs : Printed (s.flatMap escape) := by
    intro c hc
    obtain ⟨p, -, hm⟩ := List.mem_flatMap.mp hc
    exact printed_escape p c hm
  exact printed_append.mpr ⟨printed_append.mpr ⟨hq, hs⟩, hq⟩

end Printable

end InvocationClient.Json
