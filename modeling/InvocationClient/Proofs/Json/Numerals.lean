import Mathlib.Data.List.TakeDrop
import InvocationClient.Proofs.Invocation.Deadline
import InvocationClient.Proofs.Json.Strings
import InvocationClient.Text.Split

/-! # Numerals that are read back

An integer that is not too long to be written reads as itself, if it is followed by what a value can
be followed by. Nothing of that is taken for a further digit, a fraction or an exponent, and no
integer is taken for a word.
-/

namespace InvocationClient.Json

open Text Number

variable {room m : Nat} {n : Int} {rest : List CodePoint} {p : CodePoint} {ds ws : List Char}

/-- What can follow a value: the end, a comma, or the end of an array or an object. -/
def Closed (rest : List CodePoint) : Prop :=
  ∀ p, rest.head? = some p → p = CodePoint.ofChar ',' ∨ p = CodePoint.ofChar ']' ∨
    p = CodePoint.ofChar '\x7d'

theorem closed_nil : Closed [] := by
  rintro p ⟨⟩

theorem closed_comma (rest : List CodePoint) : Closed (CodePoint.ofChar ',' :: rest) := by
  rintro p ⟨⟩
  exact .inl rfl

theorem closed_bracket (rest : List CodePoint) : Closed (CodePoint.ofChar ']' :: rest) := by
  rintro p ⟨⟩
  exact .inr (.inl rfl)

theorem closed_brace (rest : List CodePoint) : Closed (CodePoint.ofChar '\x7d' :: rest) := by
  rintro p ⟨⟩
  exact .inr (.inr rfl)

section Space

theorem skip_cons (h : isSpace p = false) (s : List CodePoint) : skip (p :: s) = p :: s := by
  rw [skip, List.dropWhile_cons_of_neg (by simp [h])]

theorem skip_points_append (h : Spaces ws) (s : List CodePoint) :
    skip (points ws ++ s) = skip s := by
  have ha : [' ', '\t', '\n', '\r'].all (fun c => isSpace (CodePoint.ofChar c)) = true := by decide
  induction ws with
  | nil => rfl
  | cons c ws ih =>
    obtain ⟨hc, hws⟩ := List.forall_mem_cons.mp h
    rw [points_cons, List.cons_append, skip,
      List.dropWhile_cons_of_pos (List.all_eq_true.mp ha c hc), ← skip, ih hws]

/-- What can follow a value, perhaps behind white space. -/
def Ends (rest : List CodePoint) : Prop := Closed (skip rest)

theorem Closed.ends (h : Closed rest) : Ends rest := by
  cases rest with
  | nil => exact h
  | cons p rest =>
    have hp : isSpace p = false := by
      rcases h p rfl with rfl | rfl | rfl <;> decide
    rwa [Ends, skip_cons hp]

theorem Ends.mem_of_head? (h : Ends rest) (hp : rest.head? = some p) :
    p ∈ points [',', ']', '\x7d', ' ', '\t', '\n', '\r'] := by
  cases rest with
  | nil => cases hp
  | cons q rest =>
    cases hp
    by_cases hs : isSpace p = true
    · simp only [isSpace, Bool.or_eq_true, is_iff] at hs
      rcases hs with ((rfl | rfl) | rfl) | rfl <;> simp
    · rw [Ends, skip_cons (by simpa using hs)] at h
      rcases h p rfl with rfl | rfl | rfl <;> simp

/-- What holds of the three marks and of white space holds of what follows. -/
theorem Ends.forall_head? {f : CodePoint → Bool} (h : Ends rest)
    (hf : (points [',', ']', '\x7d', ' ', '\t', '\n', '\r']).all (!f ·) = true) :
    ∀ p, rest.head? = some p → f p = false := fun p hp => by
  simpa using List.all_eq_true.mp hf p (h.mem_of_head? hp)

end Space

section Whole

theorem toDigits_zero (h : Nat.toDigits 10 m = '0' :: ds) : ds = [] := by
  have hd : ∀ d ∈ ds, d.isDigit = true := fun d hm =>
    Nat.isDigit_of_mem_toDigits (by decide) (by decide) (h ▸ List.mem_cons_of_mem _ hm)
  have hv : ofDigits ds = m := by
    rw [← ofDigits_toDigits m, h, ofDigits, ofDigits, Nat.ofDigitChars_cons]
    rfl
  have hm : m < 10 ^ ds.length := hv ▸ Deadline.ofDigits_lt hd
  by_contra hne
  have hl := (Nat.length_toDigits_le_iff (by decide) (List.length_pos_iff.mpr hne)).mpr hm
  rw [h, List.length_cons] at hl
  omega

theorem whole_toDigits (m : Nat) : Whole (Nat.toDigits 10 m) := by
  have hd : ∀ d ∈ Nat.toDigits 10 m, d.isDigit = true := fun d hm =>
    Nat.isDigit_of_mem_toDigits (by decide) (by decide) hm
  obtain ⟨d, ds, hs⟩ := List.exists_cons_of_ne_nil (Nat.toDigits_ne_nil (n := m) (b := 10))
  by_cases h0 : d = '0'
  · subst h0
    rw [hs, toDigits_zero hs]
    exact .zero
  · rw [hs] at hd ⊢
    obtain ⟨hd, hds⟩ := List.forall_mem_cons.mp hd
    exact .digits hd h0 hds

theorem Whole.isDigit (h : Whole ds) : ∀ d ∈ ds, d.isDigit = true := by
  cases h with
  | zero => exact List.forall_mem_singleton.mpr rfl
  | digits hd _ hds => exact List.forall_mem_cons.mpr ⟨hd, hds⟩

theorem Whole.exists_cons (h : Whole ds) : ∃ d more, ds = d :: more ∧ d.isDigit = true := by
  cases h with
  | zero => exact ⟨_, _, rfl, rfl⟩
  | digits hd _ _ => exact ⟨_, _, rfl, hd⟩

theorem isDigit_ofChar {d : Char} (h : d.isDigit = true) : isDigit (CodePoint.ofChar d) = true := by
  have hb := Char.isDigit_iff_toNat.mp h
  rw [isDigit, Bool.and_eq_true, decide_eq_true_eq, decide_eq_true_eq]
  exact hb

theorem digitChars_points (cs : List Char) : digitChars (points cs) = cs := by
  rw [digitChars, points, List.map_map]
  exact (List.map_congr_left fun c _ => Char.ofNat_toNat c).trans (List.map_id cs)

theorem splitWhole_append (h : Whole ds) (hr : Ends rest) :
    splitWhole (points ds ++ rest) = (points ds, rest) := by
  have hd : ∀ p ∈ points ds, isDigit p = true := fun p hp => by
    obtain ⟨d, hm, rfl⟩ := List.mem_map.mp hp
    exact isDigit_ofChar (h.isDigit d hm)
  have hr := hr.forall_head? (f := isDigit) (by decide)
  have ht := takeWhile_append_stop hd hr
  have hw := dropWhile_append_stop hd hr
  cases h with
  | zero => rfl
  | digits _ h0 _ =>
    rw [points_cons, List.cons_append, splitWhole, is_eq_false_of_ne h0.symm,
      if_neg Bool.false_ne_true, List.span_eq_takeWhile_dropWhile]
    exact Prod.ext ht hw

theorem splitFraction_ends (h : Ends rest) : splitFraction rest = ([], rest) := by
  have hp := h.forall_head? (f := is '.') (by decide)
  cases rest with
  | nil => rfl
  | cons p rest => simp [splitFraction, hp p rfl]

theorem splitExponent?_ends (h : Ends rest) : splitExponent? rest = none := by
  have he := h.forall_head? (f := is 'e') (by decide)
  have hE := h.forall_head? (f := is 'E') (by decide)
  cases rest with
  | nil => rfl
  | cons p rest => simp [splitExponent?, he p rfl, hE p rfl]

end Whole

def minus (negative : Bool) : List Char := if negative then ['-'] else []

theorem toList_repr (n : Int) :
    n.repr.toList = minus (n < 0) ++ Nat.toDigits 10 n.natAbs := by
  cases n with
  | ofNat m => exact Nat.toList_repr
  | negSucc m =>
    have hn : Int.negSucc m < 0 := Int.negSucc_lt_zero m
    rw [Int.repr, String.toList_append, Nat.toList_repr, minus, if_pos (decide_eq_true hn)]
    rfl

theorem exists_minus_cons (negative : Bool) (h : Whole ds) : ∃ c more,
    minus negative ++ ds = c :: more ∧ (c = '-' ∨ c.isDigit = true) := by
  cases negative with
  | true => exact ⟨_, _, rfl, .inl rfl⟩
  | false =>
    obtain ⟨c, more, rfl, hc⟩ := h.exists_cons
    exact ⟨_, _, rfl, .inr hc⟩

theorem is_eq_false_of_numeral {c d : Char} (h : c = '-' ∨ c.isDigit = true)
    (hd : d.isDigit = false) (hm : d ≠ '-') : is d (CodePoint.ofChar c) = false := by
  apply is_eq_false_of_ne
  rintro rfl
  rcases h with h | h
  · exact hm h
  · rw [h] at hd
    cases hd

theorem isSpace_eq_false_of_numeral {c : Char} (h : c = '-' ∨ c.isDigit = true) :
    isSpace (CodePoint.ofChar c) = false := by
  rw [isSpace, is_eq_false_of_numeral h (by decide) (by decide),
    is_eq_false_of_numeral h (by decide) (by decide),
    is_eq_false_of_numeral h (by decide) (by decide),
    is_eq_false_of_numeral h (by decide) (by decide)]
  rfl

theorem exists_repr_cons (n : Int) : ∃ c more, n.repr.toList = c :: more ∧
    (c = '-' ∨ c.isDigit = true) := by
  rw [toList_repr]
  exact exists_minus_cons _ (whole_toDigits _)

/-- Digits behind a sign or none are read as an integer, unless there are too many. -/
theorem readNumber_append (negative : Bool) (h : Whole ds) (hr : Ends rest) :
    readNumber (points (minus negative ++ ds) ++ rest) =
      if ds.length ≤ digitLimit then
        .ok (.integer (if negative then -(ofDigits ds : Int) else ofDigits ds), rest)
      else .error (.tooManyDigits ds.length) := by
  obtain ⟨d, more, hs, hd⟩ := h.exists_cons
  have hm : is '-' (CodePoint.ofChar d) = false := is_eq_false_of_ne (by rintro rfl; cases hd)
  have hh : (points (minus negative ++ ds) ++ rest).head?.any (is '-') = negative := by
    cases negative with
    | true => rfl
    | false => rw [hs]; exact hm
  have ht : (if negative then (points (minus negative ++ ds) ++ rest).tail
      else points (minus negative ++ ds) ++ rest) = points ds ++ rest := by
    cases negative <;> rfl
  have he : (points ds).isEmpty = false := by
    rw [hs]
    rfl
  have hl : (points ds).length = ds.length := List.length_map _
  simp only [readNumber, hh, ht, splitWhole_append h hr, he, splitFraction_ends hr,
    splitExponent?_ends hr, List.isEmpty_nil, Bool.not_true, Bool.false_eq_true, if_false,
    digitChars_points, readDigits?, hl]
  by_cases hd : ds.length ≤ digitLimit
  · rw [if_pos hd, if_pos hd]
  · rw [if_neg hd, if_neg hd]

section Words

variable {ws : List (String × Json)} {s : List CodePoint}

theorem readWord?_eq_none (h : ∀ w ∈ ws, ¬ points w.1.toList <+: s) : readWord? ws s = none := by
  refine List.findSome?_eq_none_iff.mpr fun w hw => ?_
  have hp : ¬ (codePoints w.1).isPrefixOf s = true := fun hp =>
    h w hw (List.isPrefixOf_iff_prefix.mp hp)
  rw [afterWord?, if_neg hp, Option.map_none]

theorem exists_word_cons : ∀ w ∈ words ++ numberWords, ∃ k ks, w.1.toList = k :: ks ∧
    k.isDigit = false ∧ (k = '-' → ∃ l ls, ks = l :: ls ∧ l.isDigit = false) := by
  simp only [words, numberWords, List.cons_append, List.nil_append, List.forall_mem_cons]
  refine ⟨?_, ?_, ?_, ?_, ?_, ?_, List.forall_mem_nil _⟩
  · exact ⟨_, _, rfl, by decide, by rintro ⟨⟩⟩
  · exact ⟨_, _, rfl, by decide, by rintro ⟨⟩⟩
  · exact ⟨_, _, rfl, by decide, by rintro ⟨⟩⟩
  · exact ⟨_, _, rfl, by decide, by rintro ⟨⟩⟩
  · exact ⟨_, _, rfl, by decide, by rintro ⟨⟩⟩
  · exact ⟨_, _, rfl, by decide, fun _ => ⟨_, _, rfl, by decide⟩⟩

theorem not_prefix_of_word {word : String × Json} (hw : word ∈ words ++ numberWords)
    (negative : Bool) (h : Whole ds) (rest : List CodePoint) :
    ¬ points word.1.toList <+: points (minus negative ++ ds) ++ rest := by
  obtain ⟨d, more, rfl, hd⟩ := h.exists_cons
  obtain ⟨k, ks, hk, hn, hm⟩ := exists_word_cons word hw
  intro hp
  rw [hk] at hp
  cases negative with
  | false =>
    have hkd := CodePoint.ofChar_injective (List.cons_prefix_cons.mp hp).1
    rw [hkd, hd] at hn
    cases hn
  | true =>
    obtain ⟨hk', hp'⟩ := List.cons_prefix_cons.mp hp
    obtain ⟨l, ls, rfl, hl⟩ := hm (CodePoint.ofChar_injective hk')
    have hld := CodePoint.ofChar_injective (List.cons_prefix_cons.mp hp').1
    rw [hld, hd] at hl
    cases hl

end Words

/-- An integer is told neither by a word nor by what else numbers have. -/
theorem readScalar_append (room : Nat) (negative : Bool) (h : Whole ds) (hr : Ends rest) :
    readScalar room (points (minus negative ++ ds) ++ rest) =
      if ds.length ≤ digitLimit then
        .ok (.integer (if negative then -(ofDigits ds : Int) else ofDigits ds), rest)
      else .error (.tooManyDigits ds.length) := by
  have hn : ∀ word ∈ words ++ numberWords,
      ¬ points word.1.toList <+: points (minus negative ++ ds) ++ rest := fun word hm =>
    not_prefix_of_word hm negative h rest
  rw [readScalar, readWord?_eq_none fun w hm => hn w (List.mem_append_left _ hm),
    readWord?_eq_none fun w hm => hn w (List.mem_append_right _ hm), readNumber_append _ h hr]

theorem readScalar_repr (room : Nat) (hw : isWritable n = true) (hc : Closed rest) :
    readScalar room (points n.repr.toList ++ rest) = .ok (.integer n, rest) := by
  have hl : (Nat.toDigits 10 n.natAbs).length ≤ digitLimit := of_decide_eq_true hw
  have hv : (if decide (n < 0) = true then -(n.natAbs : Int) else n.natAbs) = n := by
    by_cases h : n < 0
    · rw [if_pos (decide_eq_true h)]
      omega
    · rw [if_neg (by simpa using h)]
      omega
  rw [toList_repr, readScalar_append room _ (whole_toDigits _) hc.ends, if_pos hl,
    ofDigits_toDigits, hv]

end InvocationClient.Json
