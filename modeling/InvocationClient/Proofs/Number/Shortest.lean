import InvocationClient.Proofs.Number.Rounding
import Mathlib.Tactic.FieldSimp

/-! # Shortest decimals

Of the multiples of a power of ten that read as a double, the nearest is one of the two beside it.
The search for the highest power that has such a multiple begins where there is none yet, and goes
down far enough to find one.
-/

namespace InvocationClient.Number

variable {i d d' : Nat} {k : ℤ} {h : Neighbourhood}

/-- The shortest decimal of a double: a multiple of the highest power of ten that has multiples which
read as the double, and the nearest of these, or the even one of two equally near. -/
structure Shortest (i d : Nat) (k : ℤ) : Prop where
  reads : ReadsAs (d * 10 ^ k) i
  coarsest : ∀ (d' : Nat) (k' : ℤ), k < k' → ¬ ReadsAs (d' * 10 ^ k') i
  nearest : ∀ d' : Nat, ReadsAs (d' * 10 ^ k) i → d' ≠ d →
    |magnitude i - d * 10 ^ k| < |magnitude i - d' * 10 ^ k| ∨
      (|magnitude i - d * 10 ^ k| = |magnitude i - d' * 10 ^ k| ∧ d % 2 = 0 ∧ d' % 2 = 1)

theorem Shortest.unique {k' : ℤ} (h : Shortest i d k) (h' : Shortest i d' k') :
    d = d' ∧ k = k' := by
  have hk : k = k' := by
    rcases lt_trichotomy k k' with hk | hk | hk
    · exact absurd h'.reads (h.coarsest d' k' hk)
    · exact hk
    · exact absurd h.reads (h'.coarsest d k hk)
  subst hk
  refine ⟨?_, rfl⟩
  by_contra hn
  rcases h.nearest d' h'.reads (Ne.symm hn) with ha | ⟨ha, hd, hd'⟩
  · rcases h'.nearest d h.reads hn with hb | ⟨hb, -, -⟩
    · exact lt_asymm ha hb
    · exact ha.ne hb.symm
  · rcases h'.nearest d h.reads hn with hb | ⟨-, he, -⟩
    · exact hb.ne ha.symm
    · omega

namespace Neighbourhood

/-- A neighbourhood reaches from the middle of one gap to that of the next. -/
structure IsAround (h : Neighbourhood) (i : Nat) : Prop where
  value : h.value * 2 ^ h.exponent = magnitude i
  low : 2 * (h.low * 2 ^ h.exponent) = magnitude (i - 1) + magnitude i
  high : 2 * (h.high * 2 ^ h.exponent) = magnitude i + magnitude (i + 1)
  closed : h.closed = true ↔ i % 2 = 0

def around (i : Nat) : Neighbourhood :=
  ofParts ((if i / 2 ^ 52 = 0 then 0 else 2 ^ 52) + i % 2 ^ 52) ((max (i / 2 ^ 52) 1 : Nat) - 1075)
    (i % 2 ^ 52 = 0 && 1 < i / 2 ^ 52)

/-- The double is the least of its binade, so that the gap below it belongs to the one before. -/
theorem gap_eq_twice (hm : i % 2 ^ 52 = 0) (he : 1 < i / 2 ^ 52) : gap i = 2 * gap (i - 1) := by
  have hx : ((max (i / 2 ^ 52) 1 : Nat) : ℤ) - 1075 =
      ((max ((i - 1) / 2 ^ 52) 1 : Nat) - 1075 : ℤ) + 1 := by omega
  rw [gap, gap, hx, zpow_add_one₀ (by norm_num), mul_comm]

theorem gap_eq_gap (h : i % 2 ^ 52 = 0 → i / 2 ^ 52 ≤ 1) : gap (i - 1) = gap i := by
  have hx : max ((i - 1) / 2 ^ 52) 1 = max (i / 2 ^ 52) 1 := by omega
  rw [gap, gap, hx]

theorem isAround_around (hi : 0 < i) : (around i).IsAround i := by
  have hu : (2 : ℚ) ^ (((max (i / 2 ^ 52) 1 : Nat) : ℤ) - 1075 - 2) = gap i / 4 := by
    rw [gap, zpow_sub₀ (by norm_num) _ 2]
    norm_num
  have hv : magnitude i =
      ((if i / 2 ^ 52 = 0 then 0 else 2 ^ 52) + i % 2 ^ 52 : Nat) * gap i := rfl
  have hM : 0 < (if i / 2 ^ 52 = 0 then 0 else 2 ^ 52) + i % 2 ^ 52 := by
    split <;> omega
  have hlow : magnitude (i - 1) = magnitude i - gap (i - 1) := by
    rw [eq_sub_iff_add_eq, ← magnitude_succ, Nat.sub_add_cancel hi]
  refine ⟨?_, ?_, ?_, ?_⟩
  · simp only [around, ofParts, hu, hv]
    push_cast
    ring
  · simp only [around, ofParts, hu, hlow]
    split
    · next hl =>
      obtain ⟨hm, he⟩ := Bool.and_eq_true_iff.mp hl
      rw [Nat.cast_sub (by omega), hv]
      push_cast
      rw [gap_eq_twice (of_decide_eq_true hm) (of_decide_eq_true he)]
      ring
    · next hl =>
      simp only [Bool.and_eq_true, decide_eq_true_eq, not_and, Nat.not_lt] at hl
      rw [Nat.cast_sub (by omega), gap_eq_gap hl, hv]
      push_cast
      ring
  · simp only [around, ofParts, hu, magnitude_succ, hv]
    push_cast
    ring
  · simp only [around, ofParts, beq_iff_eq]
    split <;> omega

section Scales

theorem zpow_eq_div {x : ℚ} (hx : 0 < x) (k : ℤ) : x ^ k = x ^ k.toNat / x ^ (-k).toNat := by
  rw [eq_div_iff (pow_pos hx _).ne', ← zpow_natCast, ← zpow_natCast, ← zpow_add₀ hx.ne']
  congr 1
  omega

/-- The two factors stand for a power of ten and one of two. -/
theorem exists_scale (h : Neighbourhood) (k : ℤ) : ∃ s : ℚ, 0 < s ∧
    ((h.scale k).1 : ℚ) = 10 ^ k * s ∧ ((h.scale k).2 : ℚ) = 2 ^ h.exponent * s := by
  refine ⟨10 ^ (-k).toNat * 2 ^ (-h.exponent).toNat, by positivity, ?_, ?_⟩
  · rw [zpow_eq_div (by norm_num) k]
    simp only [scale, Nat.pow_eq]
    push_cast
    field_simp
  · rw [zpow_eq_div (by norm_num) h.exponent]
    simp only [scale, Nat.pow_eq]
    push_cast
    field_simp

theorem scale_pos (h : Neighbourhood) (k : ℤ) : 0 < (h.scale k).1 ∧ 0 < (h.scale k).2 := by
  obtain ⟨s, hs, ha, hb⟩ := h.exists_scale k
  have ha' : (0 : ℚ) < (h.scale k).1 := by rw [ha]; positivity
  have hb' : (0 : ℚ) < (h.scale k).2 := by rw [hb]; positivity
  exact ⟨by exact_mod_cast ha', by exact_mod_cast hb'⟩

theorem le_scaled_iff (x : Nat) :
    x * (h.scale k).2 ≤ d * (h.scale k).1 ↔ (x * 2 ^ h.exponent : ℚ) ≤ d * 10 ^ k := by
  obtain ⟨s, hs, ha, hb⟩ := h.exists_scale k
  rw [← Nat.cast_le (α := ℚ)]
  push_cast
  rw [ha, hb, ← mul_assoc, ← mul_assoc, mul_le_mul_iff_left₀ hs]

theorem scaled_le_iff (x : Nat) :
    d * (h.scale k).1 ≤ x * (h.scale k).2 ↔ (d * 10 ^ k : ℚ) ≤ x * 2 ^ h.exponent := by
  obtain ⟨s, hs, ha, hb⟩ := h.exists_scale k
  rw [← Nat.cast_le (α := ℚ)]
  push_cast
  rw [ha, hb, ← mul_assoc, ← mul_assoc, mul_le_mul_iff_left₀ hs]

/-- A multiple of a power of ten reads as the double if it lies in the neighbourhood. -/
theorem holds_iff (ha : h.IsAround i) (hi : 0 < i) (hb : i < infinityBits) :
    h.holds k d = true ↔ ReadsAs (d * 10 ^ k) i := by
  rw [readsAs_iff hi hb, ← ha.low, ← ha.high]
  have hl := le_scaled_iff (h := h) (d := d) (k := k) h.low
  have hl' := scaled_le_iff (h := h) (d := d) (k := k) h.low
  have hh := scaled_le_iff (h := h) (d := d) (k := k) h.high
  have hh' := le_scaled_iff (h := h) (d := d) (k := k) h.high
  by_cases hc : h.closed = true
  · simp only [holds, hc, if_true, Bool.and_eq_true, decide_eq_true_eq, hl, hh, ha.closed.mp hc,
      and_true]
    rw [le_iff_lt_or_eq, le_iff_lt_or_eq]
    simp
  · have he : ¬ i % 2 = 0 := fun he => hc (ha.closed.mpr he)
    simp only [holds, hc, if_false, Bool.and_eq_true, decide_eq_true_eq, ← Nat.not_le, hl', hh', he,
      and_false, or_false, Bool.false_eq_true, not_le]
    simp

end Scales

section Nearest

theorem low_lt_value (ha : h.IsAround i) (hi : 0 < i) : h.low < h.value := by
  have hm : magnitude (i - 1) < magnitude i := strictMono_magnitude (by omega)
  have hu : (0 : ℚ) < 2 ^ h.exponent := zpow_pos (by norm_num) _
  have hl := ha.low
  have hv := ha.value
  have hlt : (h.low * 2 ^ h.exponent : ℚ) < h.value * 2 ^ h.exponent := by linarith
  exact_mod_cast lt_of_mul_lt_mul_right hlt hu.le

theorem value_lt_high (ha : h.IsAround i) : h.value < h.high := by
  have hm : magnitude i < magnitude (i + 1) := strictMono_magnitude (by omega)
  have hu : (0 : ℚ) < 2 ^ h.exponent := zpow_pos (by norm_num) _
  have hl := ha.high
  have hv := ha.value
  have hlt : (h.value * 2 ^ h.exponent : ℚ) < h.high * 2 ^ h.exponent := by linarith
  exact_mod_cast lt_of_mul_lt_mul_right hlt hu.le

/-- What lies between a multiple that reads back and the double reads back too. -/
theorem holds_of_le (hh : h.value < h.high) (hd : h.holds k d' = true) (hle : d' ≤ d)
    (hv : d * (h.scale k).1 ≤ h.value * (h.scale k).2) : h.holds k d = true := by
  have hb := (h.scale_pos k).2
  have hm := Nat.mul_le_mul_right (h.scale k).1 hle
  have hx := Nat.mul_lt_mul_of_pos_right hh hb
  by_cases hc : h.closed = true
  · simp only [holds, hc, if_true, Bool.and_eq_true, decide_eq_true_eq] at hd ⊢
    omega
  · simp only [holds, hc, if_false, Bool.and_eq_true, decide_eq_true_eq, Bool.false_eq_true] at hd ⊢
    omega

theorem holds_of_ge (hl : h.low < h.value) (hd : h.holds k d' = true) (hle : d ≤ d')
    (hv : h.value * (h.scale k).2 ≤ d * (h.scale k).1) : h.holds k d = true := by
  have hb := (h.scale_pos k).2
  have hm := Nat.mul_le_mul_right (h.scale k).1 hle
  have hx := Nat.mul_lt_mul_of_pos_right hl hb
  by_cases hc : h.closed = true
  · simp only [holds, hc, if_true, Bool.and_eq_true, decide_eq_true_eq] at hd ⊢
    omega
  · simp only [holds, hc, if_false, Bool.and_eq_true, decide_eq_true_eq, Bool.false_eq_true] at hd ⊢
    omega

/-- Of two multiples the one is nearer to the double if that lies on its side of the middle. -/
theorem dist_lt_iff (ha : h.IsAround i) (hlt : d < d') :
    |magnitude i - d * 10 ^ k| < |magnitude i - d' * 10 ^ k| ↔
      2 * (h.value * (h.scale k).2) < (d + d') * (h.scale k).1 := by
  have ht : (0 : ℚ) < 10 ^ k := zpow_pos (by norm_num) k
  have hm : (d * 10 ^ k : ℚ) < d' * 10 ^ k := mul_lt_mul_of_pos_right (by exact_mod_cast hlt) ht
  obtain ⟨s, hs, hsa, hsb⟩ := h.exists_scale k
  rw [abs_lt_iff_of_lt hm, ← ha.value, ← Nat.cast_lt (α := ℚ), ← mul_lt_mul_iff_left₀ hs]
  push_cast
  rw [hsa, hsb]
  ring_nf

theorem dist_gt_iff (ha : h.IsAround i) (hlt : d < d') :
    |magnitude i - d' * 10 ^ k| < |magnitude i - d * 10 ^ k| ↔
      (d + d') * (h.scale k).1 < 2 * (h.value * (h.scale k).2) := by
  have ht : (0 : ℚ) < 10 ^ k := zpow_pos (by norm_num) k
  have hm : (d * 10 ^ k : ℚ) < d' * 10 ^ k := mul_lt_mul_of_pos_right (by exact_mod_cast hlt) ht
  obtain ⟨s, hs, hsa, hsb⟩ := h.exists_scale k
  rw [abs_lt_iff_of_gt hm, ← ha.value, ← Nat.cast_lt (α := ℚ), ← mul_lt_mul_iff_left₀ hs]
  push_cast
  rw [hsa, hsb]
  ring_nf

theorem dist_eq_iff (ha : h.IsAround i) (hlt : d < d') :
    |magnitude i - d * 10 ^ k| = |magnitude i - d' * 10 ^ k| ↔
      2 * (h.value * (h.scale k).2) = (d + d') * (h.scale k).1 := by
  have ht : (0 : ℚ) < 10 ^ k := zpow_pos (by norm_num) k
  have hm : (d * 10 ^ k : ℚ) < d' * 10 ^ k := mul_lt_mul_of_pos_right (by exact_mod_cast hlt) ht
  obtain ⟨s, hs, hsa, hsb⟩ := h.exists_scale k
  rw [abs_eq_iff_of_ne hm.ne, ← ha.value, ← Nat.cast_inj (R := ℚ), ← mul_left_inj' hs.ne']
  push_cast
  rw [hsa, hsb]
  ring_nf

/-- The multiple of a power of ten right below the double, or the double itself. -/
def floor (h : Neighbourhood) (k : ℤ) : Nat := h.value * (h.scale k).2 / (h.scale k).1

/-- Twice what the double is above that. -/
def twice (h : Neighbourhood) (k : ℤ) : Nat := 2 * (h.value * (h.scale k).2 % (h.scale k).1)

theorem floor_bounds (h : Neighbourhood) (k : ℤ) :
    h.floor k * (h.scale k).1 ≤ h.value * (h.scale k).2 ∧
      h.value * (h.scale k).2 < (h.floor k + 1) * (h.scale k).1 :=
  ⟨Nat.div_mul_le_self .., Nat.lt_mul_of_div_lt (Nat.lt_succ_self _) (h.scale_pos k).1⟩

theorem nearest?_eq (h : Neighbourhood) (k : ℤ) :
    h.nearest? k =
      match h.holds k (h.floor k), h.holds k (h.floor k + 1) with
      | true, true =>
        some (if h.twice k < (h.scale k).1 || (h.twice k = (h.scale k).1 && h.floor k % 2 = 0) then
          h.floor k else h.floor k + 1)
      | true, false => some (h.floor k)
      | false, true => some (h.floor k + 1)
      | false, false => none := rfl

theorem twice_add (h : Neighbourhood) (k : ℤ) :
    h.twice k + (h.floor k + h.floor k) * (h.scale k).1 = 2 * (h.value * (h.scale k).2) := by
  have hm := Nat.div_add_mod (h.value * (h.scale k).2) (h.scale k).1
  rw [← Nat.two_mul, Nat.mul_assoc, twice, ← Nat.mul_add, Nat.mul_comm (h.floor k), floor,
    Nat.add_comm, hm]

theorem holds_floor (ha : h.IsAround i) (hd : h.holds k d = true) (hle : d ≤ h.floor k) :
    h.holds k (h.floor k) = true :=
  holds_of_le (value_lt_high ha) hd hle (h.floor_bounds k).1

theorem holds_ceil (ha : h.IsAround i) (hi : 0 < i) (hd : h.holds k d = true)
    (hlt : h.floor k < d) : h.holds k (h.floor k + 1) = true :=
  holds_of_ge (low_lt_value ha hi) hd hlt (h.floor_bounds k).2.le

theorem dist_floor_lt (ha : h.IsAround i) (hlt : d < h.floor k) :
    |magnitude i - h.floor k * 10 ^ k| < |magnitude i - d * 10 ^ k| := by
  rw [dist_gt_iff ha hlt, ← twice_add]
  have hm := Nat.mul_lt_mul_of_pos_right (Nat.add_lt_add_right hlt (h.floor k)) (h.scale_pos k).1
  omega

theorem dist_ceil_lt (ha : h.IsAround i) (hlt : h.floor k + 1 < d) :
    |magnitude i - (h.floor k + 1 : Nat) * 10 ^ k| < |magnitude i - d * 10 ^ k| := by
  rw [dist_lt_iff ha hlt]
  have hm := Nat.mul_le_mul_right (h.scale k).1 (Nat.add_le_add_left hlt.le (h.floor k + 1))
  have hb := (h.floor_bounds k).2
  rw [Nat.add_mul] at hm
  omega

theorem dist_floor_lt_ceil_iff (ha : h.IsAround i) :
    |magnitude i - h.floor k * 10 ^ k| < |magnitude i - (h.floor k + 1 : Nat) * 10 ^ k| ↔
      h.twice k < (h.scale k).1 := by
  rw [dist_lt_iff ha (Nat.lt_add_one _), ← twice_add, ← Nat.add_assoc, Nat.add_one_mul]
  omega

theorem dist_floor_eq_ceil_iff (ha : h.IsAround i) :
    |magnitude i - h.floor k * 10 ^ k| = |magnitude i - (h.floor k + 1 : Nat) * 10 ^ k| ↔
      h.twice k = (h.scale k).1 := by
  rw [dist_eq_iff ha (Nat.lt_add_one _), ← twice_add, ← Nat.add_assoc, Nat.add_one_mul]
  omega

theorem nearest?_eq_none_iff (ha : h.IsAround i) (hi : 0 < i) :
    h.nearest? k = none ↔ ∀ d, h.holds k d ≠ true := by
  rw [nearest?_eq]
  constructor
  · intro hn d hd
    rcases Nat.lt_or_ge (h.floor k) d with hlt | hge
    · rw [holds_ceil ha hi hd hlt] at hn
      split at hn <;> simp_all
    · rw [holds_floor ha hd hge] at hn
      split at hn <;> simp_all
  · intro hn
    rw [Bool.eq_false_iff.mpr (hn (h.floor k)), Bool.eq_false_iff.mpr (hn (h.floor k + 1))]

/-- A multiple is no farther from the double than another, and even if that is as near. -/
def IsNearer (i : Nat) (k : ℤ) (d d' : Nat) : Prop :=
  |magnitude i - d * 10 ^ k| < |magnitude i - d' * 10 ^ k| ∨
    (|magnitude i - d * 10 ^ k| = |magnitude i - d' * 10 ^ k| ∧ d % 2 = 0 ∧ d' % 2 = 1)

theorem IsNearer.trans_lt {d₁ d₂ d₃ : Nat} (h : IsNearer i k d₁ d₂)
    (hd : |magnitude i - d₂ * 10 ^ k| < |magnitude i - d₃ * 10 ^ k|) : IsNearer i k d₁ d₃ :=
  h.elim (fun h => .inl (h.trans hd)) fun h => .inl (h.1.trans_lt hd)

theorem nearer_of_floor (ha : h.IsAround i)
    (hn : IsNearer i k (h.floor k) (h.floor k + 1)) (hd : d ≠ h.floor k) :
    IsNearer i k (h.floor k) d := by
  rcases Nat.lt_trichotomy d (h.floor k + 1) with hlt | rfl | hgt
  · exact .inl (dist_floor_lt ha (by omega))
  · exact hn
  · exact hn.trans_lt (dist_ceil_lt ha hgt)

theorem nearer_of_ceil (ha : h.IsAround i)
    (hn : IsNearer i k (h.floor k + 1) (h.floor k)) (hd : d ≠ h.floor k + 1) :
    IsNearer i k (h.floor k + 1) d := by
  rcases Nat.lt_trichotomy d (h.floor k) with hlt | rfl | hgt
  · exact hn.trans_lt (dist_floor_lt ha hlt)
  · exact hn
  · exact .inl (dist_ceil_lt ha (by omega))

theorem nearer_of_twice (ha : h.IsAround i) :
    if h.twice k < (h.scale k).1 ∨ (h.twice k = (h.scale k).1 ∧ h.floor k % 2 = 0) then
      IsNearer i k (h.floor k) (h.floor k + 1)
    else IsNearer i k (h.floor k + 1) (h.floor k) := by
  split
  · next ht =>
    rcases ht with ht | ⟨ht, he⟩
    · exact .inl ((dist_floor_lt_ceil_iff ha).mpr ht)
    · exact .inr ⟨(dist_floor_eq_ceil_iff ha).mpr ht, he, by omega⟩
  · next ht =>
    obtain ⟨hl, he⟩ := not_or.mp ht
    rcases lt_trichotomy |magnitude i - h.floor k * 10 ^ k|
      |magnitude i - (h.floor k + 1 : Nat) * 10 ^ k| with hd | hd | hd
    · exact absurd ((dist_floor_lt_ceil_iff ha).mp hd) hl
    · have hf : ¬ h.floor k % 2 = 0 := fun hf => he ⟨(dist_floor_eq_ceil_iff ha).mp hd, hf⟩
      exact .inr ⟨hd.symm, by omega, by omega⟩
    · exact .inl hd

theorem nearest?_eq_some (ha : h.IsAround i) (hi : 0 < i) (hn : h.nearest? k = some d) :
    h.holds k d = true ∧ ∀ d', h.holds k d' = true → d' ≠ d → IsNearer i k d d' := by
  rw [nearest?_eq] at hn
  cases hf : h.holds k (h.floor k) <;> cases hc : h.holds k (h.floor k + 1)
  · simp [hf, hc] at hn
  · -- Only the multiple above reads back.
    simp only [hf, hc, Option.some.injEq] at hn
    subst hn
    refine ⟨hc, fun d' hd hne => .inl (dist_ceil_lt ha ?_)⟩
    by_contra hlt
    rw [holds_floor ha hd (by omega)] at hf
    cases hf
  · -- Only the multiple below does.
    simp only [hf, hc, Option.some.injEq] at hn
    subst hn
    refine ⟨hf, fun d' hd hne => .inl (dist_floor_lt ha ?_)⟩
    by_contra hlt
    rw [holds_ceil ha hi hd (by omega)] at hc
    cases hc
  · have ht := nearer_of_twice (k := k) ha
    simp only [hf, hc, Option.some.injEq, Bool.or_eq_true, Bool.and_eq_true,
      decide_eq_true_eq] at hn
    split at ht
    · next hif =>
      rw [if_pos hif] at hn
      subst hn
      exact ⟨hf, fun d' _ hne => nearer_of_floor ha ht hne⟩
    · next hif =>
      rw [if_neg hif] at hn
      subst hn
      exact ⟨hc, fun d' _ hne => nearer_of_ceil ha ht hne⟩

end Nearest

end Neighbourhood

end InvocationClient.Number
