import InvocationClient.Proofs.Invocation.Extraction
import InvocationClient.Proofs.Json.Numerals
import Mathlib.Data.Nat.Digits.Defs

/-! # From the text of a deadline to the time that is left

A text that is a plain integer means what its digits stand for by their places, and any other text
means nothing, which counts as nought. Reading a deadline finds what its text means, and so undoes
writing. The time that is left is counted down from there.
-/

namespace InvocationClient.Deadline

/-- The number that decimal digits stand for by their places, the last one being that of ones. -/
def placeValue (digits : List Char) : Nat :=
  Nat.ofDigits 10 (digits.map fun d => d.toNat - '0'.toNat).reverse

/-- What is said about a deadline by a text, or by there being none. -/
inductive Means : Option String → Int → Prop where
  | absent : Means none 0
  | plain {text : String} {negative : Bool} {digits : List Char} :
      Plain text.toList negative digits →
      Means (some text) (if negative then -(placeValue digits : Int) else placeValue digits)
  | other {text : String} : (∀ negative digits, ¬ Plain text.toList negative digits) →
      Means (some text) 0

variable {raw : Option String} {cs digits digits' : List Char} {negative negative' : Bool}
  {n n' : Int}

theorem ofDigits_eq_placeValue (digits : List Char) :
    Number.ofDigits digits = placeValue digits := by
  induction digits with
  | nil => rfl
  | cons d digits ih =>
    rw [ofDigits_cons, ih, placeValue, placeValue, List.map_cons, List.reverse_cons,
      Nat.ofDigits_append, Nat.ofDigits_singleton, List.length_reverse, List.length_map,
      Nat.add_comm]
    rfl

theorem Plain.unique (h : Plain cs negative digits) (h' : Plain cs negative' digits') :
    negative = negative' ∧ digits = digits' := by
  rw [← split?_eq_some_iff] at h h'
  exact Prod.mk.inj (Option.some.inj (h.symm.trans h'))

theorem Means.unique (h : Means raw n) (h' : Means raw n') : n = n' := by
  cases h with
  | absent =>
    cases h'
    rfl
  | plain hp =>
    cases h' with
    | plain hp' =>
      obtain ⟨rfl, rfl⟩ := hp.unique hp'
      rfl
    | other hn => exact absurd hp (hn _ _)
  | other hn =>
    cases h' with
    | plain hp => exact absurd hp (hn _ _)
    | other _ => rfl

theorem Plain.countP_isDigit (h : Plain cs negative digits) :
    cs.countP Char.isDigit = digits.length := by
  have hd : digits.countP Char.isDigit = digits.length := List.countP_eq_length.mpr h.isDigits.2
  cases h with
  | unsigned _ => exact hd
  | plus _ => rwa [List.countP_cons_of_neg (by decide)]
  | minus _ => rwa [List.countP_cons_of_neg (by decide)]

theorem parse_of_plain {text : String} (h : Plain text.toList negative digits)
    (hl : digits.length ≤ Number.digitLimit) :
    parse (some text) =
      .ok (if negative then -(placeValue digits : Int) else placeValue digits) := by
  simp only [parse, split?_eq_some_iff.mpr h, Number.readDigits?, if_pos hl, ofDigits_eq_placeValue]

theorem parse_of_not_plain {text : String}
    (h : ∀ negative digits, ¬ Plain text.toList negative digits) : parse (some text) = .ok 0 := by
  simp only [parse, split?_eq_none_iff.mpr h]

theorem Means.exists (raw : Option String) : ∃ n, Means raw n := by
  cases raw with
  | none => exact ⟨0, .absent⟩
  | some text =>
    by_cases h : ∃ negative digits, Plain text.toList negative digits
    · obtain ⟨negative, digits, hp⟩ := h
      exact ⟨_, .plain hp⟩
    · simp only [not_exists] at h
      exact ⟨0, .other h⟩

theorem parse_of_means (h : Means raw n)
    (hl : ∀ text ∈ raw, text.toList.countP Char.isDigit ≤ Number.digitLimit) :
    parse raw = .ok n := by
  cases h with
  | absent => rfl
  | @plain text _ _ hp =>
    refine parse_of_plain hp ?_
    rw [← hp.countP_isDigit]
    exact hl text rfl
  | other hn => exact parse_of_not_plain hn

theorem means_of_parse (h : parse raw = .ok n) : Means raw n := by
  obtain ⟨n', hm⟩ := Means.exists raw
  have hp : parse raw = .ok n' := by
    cases hm with
    | absent => rfl
    | @plain text negative digits hp =>
      refine parse_of_plain hp (Nat.not_lt.mp fun hl => ?_)
      rw [parse_eq_error_iff.mpr ⟨text, negative, digits, rfl, hp, hl, rfl⟩] at h
      cases h
    | other hn => exact parse_of_not_plain hn
  rw [hp] at h
  cases h
  exact hm

theorem plain_toString (n : Int) :
    Plain (toString n).toList (n < 0) (Nat.toDigits 10 n.natAbs) := by
  have hd : Digits (Nat.toDigits 10 n.natAbs) :=
    ⟨Nat.toDigits_ne_nil, fun _ hd => Nat.isDigit_of_mem_toDigits (by decide) (by decide) hd⟩
  change Plain n.repr.toList _ _
  rw [Json.toList_repr]
  by_cases h : n < 0
  · rw [decide_eq_true h]
    exact .minus hd
  · rw [decide_eq_false h]
    exact .unsigned hd

theorem parse_toString (h : Number.isWritable n = true) : parse (some (toString n)) = .ok n := by
  have hl : (Nat.toDigits 10 n.natAbs).length ≤ Number.digitLimit := of_decide_eq_true h
  rw [parse_of_plain (plain_toString n) hl, ← ofDigits_eq_placeValue, Number.ofDigits_toDigits]
  by_cases hn : n < 0
  · simp only [decide_eq_true hn, if_true]
    rw [Int.ofNat_natAbs_of_nonpos (Int.le_of_lt hn), Int.neg_neg]
  · simp only [decide_eq_false hn, Bool.false_eq_true, if_false]
    rw [Int.natAbs_of_nonneg (Int.not_lt.mp hn)]

theorem remaining_le_of_le (i : Invocation) {now later : Int} (h : now ≤ later) :
    i.remaining later ≤ i.remaining now := by
  unfold Invocation.remaining
  split
  · exact Int.le_refl 0
  · omega

theorem remaining_nonneg (i : Invocation) (now : Int) : 0 ≤ i.remaining now := by
  unfold Invocation.remaining
  split
  · exact Int.le_refl 0
  · exact Int.le_max_right _ _

/-- A deadline of no more than 4300 digits is read as what its text means: the integer that is
written there, with a sign or none, or else nought. In this way every integer that is below ten to
the power of 4300, whatever its sign, is read as it is written. The deadline of an invocation is
what the last header field of its name means. If it is not nought, the time that is left is counted
down to it and stays at nought from then on. -/
theorem remaining_by_text :
    (∀ raw n, (∀ text ∈ raw, text.toList.countP Char.isDigit ≤ 4300) →
      (parse raw = .ok n ↔ Means raw n)) ∧
    (∀ n : Int, n.natAbs < 10 ^ 4300 → parse (some (toString n)) = .ok n) ∧
    ∀ fields body i, Metadata.extract fields body = .ok i →
      ∃ n, (∀ n', Means (Metadata.namedValue? .deadline fields) n' ↔ n' = n) ∧
        (∀ now, i.remaining now = if n = 0 then 0 else max (n - now) 0) ∧
        (∀ now, 0 ≤ i.remaining now) ∧
        ∀ now later, now ≤ later → i.remaining later ≤ i.remaining now := by
  have hl : 4300 = Number.digitLimit := rfl
  refine ⟨fun raw n hd => ⟨means_of_parse, fun h => parse_of_means h hd⟩, fun n h => ?_,
    fun fields body i h => ?_⟩
  · rw [hl] at h
    refine parse_toString ((Number.isWritable_iff n).mpr ?_)
    -- The power itself is never to be computed.
    generalize Number.digitLimit = limit at h ⊢
    exact h
  obtain ⟨-, -, hd, -⟩ := Metadata.extract_eq_ok_iff.mp h
  rw [Metadata.lastValue?_eq_namedValue?] at hd
  have hm := means_of_parse hd
  refine ⟨i.deadline, fun n' => ⟨fun h' => h'.unique hm, ?_⟩, fun now => rfl, remaining_nonneg i,
    fun now later => remaining_le_of_le i⟩
  rintro rfl
  exact hm

section Samples

/-- Two deadlines, the last of which counts. -/
def dueTwice : Fields :=
  [("Lambda-Runtime-Aws-Request-Id", "7"), ("Lambda-Runtime-Invoked-Function-Arn", "f"),
    ("Lambda-Runtime-Deadline-Ms", "90"), ("lambda-runtime-deadline-ms", "+0015")]

theorem remaining_by_text_twice :
    ∃ i, Metadata.extract dueTwice none = .ok i ∧ Means (some "+0015") 15 ∧
      i.remaining 10 = 5 ∧ i.remaining 20 = 0 := by
  obtain ⟨hp, -, hr⟩ := remaining_by_text
  have hm : Means (some "+0015") 15 := (hp _ _ (by decide +kernel)).mp rfl
  have hn : Metadata.namedValue? .deadline dueTwice = some "+0015" := by decide +kernel
  have he : Metadata.extract dueTwice none =
      .ok { id := "7", functionArn := "f", deadline := 15 } := by
    rw [Metadata.extract_eq_reading]
    rfl
  obtain ⟨n, hu, ht, -⟩ := hr _ _ _ he
  rw [hn] at hu
  obtain rfl := (hu 15).mp hm
  exact ⟨_, he, hm, ht 10, ht 20⟩

end Samples

end InvocationClient.Deadline
