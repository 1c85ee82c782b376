import InvocationClient.Invocation.Basic

/-! # The language of deadlines

A deadline is read from decimal digits behind an optional sign, and from nothing else. Reading fails
on such a text alone, and only if it has too many digits.
-/

namespace InvocationClient.Deadline

/-- At least one character, and decimal digits of ASCII only. -/
def Digits (cs : List Char) : Prop := cs ≠ [] ∧ ∀ d ∈ cs, d.isDigit = true

/-- A plain integer: digits behind a sign or none. It is negative if the sign is a minus. -/
inductive Plain : List Char → Bool → List Char → Prop where
  | unsigned {digits : List Char} : Digits digits → Plain digits false digits
  | plus {digits : List Char} : Digits digits → Plain ('+' :: digits) false digits
  | minus {digits : List Char} : Digits digits → Plain ('-' :: digits) true digits

variable {cs digits : List Char} {negative : Bool}

theorem Plain.isDigits (h : Plain cs negative digits) : Digits digits := by
  cases h <;> assumption

theorem isDigits_iff : (!cs.isEmpty && cs.all Char.isDigit) = true ↔ Digits cs := by
  simp [Digits]

theorem Digits.head?_ne {sign : Char} (h : Digits cs) (hs : sign.isDigit = false) :
    cs.head? ≠ some sign := by
  intro hc
  have hd := h.2 sign (List.mem_of_mem_head? hc)
  rw [hs] at hd
  cases hd

theorem split?_eq_some_iff : split? cs = some (negative, digits) ↔ Plain cs negative digits := by
  constructor
  · intro h
    simp only [split?, Option.ite_none_right_eq_some, isDigits_iff, Option.some.injEq,
      Prod.mk.injEq] at h
    obtain ⟨hd, rfl, rfl⟩ := h
    cases cs with
    | nil => exact absurd rfl hd.1
    | cons c cs =>
      by_cases hp : c = '+'
      · subst hp; exact .plus hd
      · by_cases hm : c = '-'
        · subst hm; exact .minus hd
        · simp only [List.head?_cons, Option.some.injEq, hp, hm, or_self, if_false,
            decide_false] at hd ⊢
          exact .unsigned hd
  · intro h
    cases h with
    | unsigned hd =>
      have hp : cs.head? ≠ some '+' := hd.head?_ne (by decide)
      have hm : cs.head? ≠ some '-' := hd.head?_ne (by decide)
      simp only [split?, hp, hm, or_self, if_false, isDigits_iff.mpr hd, if_true, decide_false]
    | plus hd => simp [split?, isDigits_iff.mpr hd]
    | minus hd => simp [split?, isDigits_iff.mpr hd]

theorem split?_eq_none_iff : split? cs = none ↔ ∀ negative digits, ¬ Plain cs negative digits := by
  rw [Option.eq_none_iff_forall_ne_some]
  simp only [Prod.forall, ne_eq, split?_eq_some_iff]

/-- Reading a deadline only ever fails on a plain integer with too many digits. -/
theorem parse_eq_error_iff {raw : Option String} {f : Failure} :
    parse raw = .error f ↔ ∃ text negative digits, raw = some text ∧
      Plain text.toList negative digits ∧ Number.digitLimit < digits.length ∧
      f = .tooManyDigits digits.length := by
  cases raw with
  | none => simp [parse]
  | some text =>
    cases hs : split? text.toList with
    | none =>
      have hn := split?_eq_none_iff.mp hs
      simp [parse, hs, hn]
    | some s =>
      obtain ⟨negative, digits⟩ := s
      have hp := split?_eq_some_iff.mp hs
      simp only [parse, hs, Number.readDigits?]
      constructor
      · intro h
        by_cases hl : digits.length ≤ Number.digitLimit
        · simp [hl] at h
        · rw [if_neg hl] at h
          exact ⟨text, negative, digits, rfl, hp, by omega, (Except.error.inj h).symm⟩
      · rintro ⟨text', negative', digits', ht, hp', hl, rfl⟩
        cases ht
        rw [← split?_eq_some_iff, hs] at hp'
        cases hp'
        rw [if_neg (by omega)]

theorem ofDigits_cons (d : Char) (cs : List Char) : Number.ofDigits (d :: cs) =
    Nat.pow 10 cs.length * (d.toNat - '0'.toNat) + Number.ofDigits cs := by
  rw [Number.ofDigits, Nat.ofDigitChars_cons, Nat.mul_zero, Nat.zero_add,
    Nat.ofDigitChars_eq_ofDigitChars_zero]
  rfl

theorem ofDigits_lt (h : ∀ d ∈ cs, d.isDigit = true) :
    Number.ofDigits cs < Nat.pow 10 cs.length := by
  induction cs with
  | nil => simp [Number.ofDigits]
  | cons d cs ih =>
    have hd : d.toNat - '0'.toNat + 1 ≤ 10 := by
      have := Char.isDigit_iff_toNat.mp (h d List.mem_cons_self)
      simp only [Char.reduceToNat] at this ⊢
      omega
    calc Number.ofDigits (d :: cs)
        = Nat.pow 10 cs.length * (d.toNat - '0'.toNat) + Number.ofDigits cs := ofDigits_cons d cs
      _ < Nat.pow 10 cs.length * (d.toNat - '0'.toNat + 1) := by
          rw [Nat.mul_succ]
          exact Nat.add_lt_add_left (ih fun d hd => h d (List.mem_cons_of_mem _ hd)) _
      _ ≤ Nat.pow 10 cs.length * 10 := Nat.mul_le_mul_left _ hd
      _ = Nat.pow 10 (d :: cs).length := rfl

theorem isWritable_of_digits (hd : ∀ d ∈ cs, d.isDigit = true)
    (hl : cs.length ≤ Number.digitLimit) (negative : Bool) :
    Number.isWritable (if negative then -(Number.ofDigits cs : Int) else Number.ofDigits cs) =
      true := by
  have hp : ∀ k, cs.length ≤ k → Number.ofDigits cs < Nat.pow 10 k := fun k hk =>
    Nat.lt_of_lt_of_le (ofDigits_lt hd) (Nat.pow_le_pow_right (by decide) hk)
  have hn := hp _ hl
  rw [Number.isWritable_iff]
  generalize Nat.pow 10 Number.digitLimit = limit at hn ⊢
  cases negative with
  | false => exact hn
  | true => rwa [if_pos rfl, Int.natAbs_neg]

theorem isWritable_of_parse {raw : Option String} {n : Int} (h : parse raw = .ok n) :
    Number.isWritable n = true := by
  cases raw with
  | none => cases h; decide
  | some text =>
    cases hs : split? text.toList with
    | none =>
      simp only [parse, hs] at h
      cases h; decide
    | some s =>
      obtain ⟨negative, digits⟩ := s
      by_cases hl : digits.length ≤ Number.digitLimit
      · simp only [parse, hs, Number.readDigits?, if_pos hl, Except.ok.injEq] at h
        rw [← h]
        exact isWritable_of_digits (split?_eq_some_iff.mp hs).isDigits.2 hl negative
      · simp [parse, hs, Number.readDigits?, hl] at h

end InvocationClient.Deadline
