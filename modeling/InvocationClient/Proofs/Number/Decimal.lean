import InvocationClient.Proofs.Number.Shortest

/-! # Decimals of doubles

The search for the highest power of ten that has a multiple which reads back begins where there is
none yet, and goes down far enough to find one. So a double is shown by its shortest decimal. That is
positional, unless its leading digit stands for a very high or a very low power of ten.
-/

namespace InvocationClient.Number

variable {i d : Nat} {k l c : ℤ} {h : Neighbourhood}

section Powers

variable {p q : Nat}

theorem two_zpow_le_of_nonneg (hp : p ≠ 0) (hpq : 2 ^ p ≤ 10 ^ q) (hl : 0 ≤ l)
    (hc : q * l ≤ p * c) : (2 : ℚ) ^ l ≤ 10 ^ c := by
  rw [← pow_le_pow_iff_left₀ (by positivity) (by positivity) hp]
  calc ((2 : ℚ) ^ l) ^ p = (2 ^ p) ^ l := by rw [← zpow_natCast, zpow_comm, zpow_natCast]
    _ ≤ (10 ^ q) ^ l := zpow_le_zpow_left₀ hl (by positivity) (by exact_mod_cast hpq)
    _ = 10 ^ (q * l) := by rw [zpow_mul, zpow_natCast]
    _ ≤ 10 ^ (p * c) := zpow_le_zpow_right₀ (by norm_num) hc
    _ = (10 ^ c) ^ p := by rw [mul_comm, zpow_mul, zpow_natCast]

theorem two_zpow_le_of_nonpos (hp : p ≠ 0) (hpq : 10 ^ q ≤ 2 ^ p) (hl : l ≤ 0)
    (hc : q * l ≤ p * c) : (2 : ℚ) ^ l ≤ 10 ^ c := by
  rw [← pow_le_pow_iff_left₀ (by positivity) (by positivity) hp]
  calc ((2 : ℚ) ^ l) ^ p = (2 ^ p) ^ l := by rw [← zpow_natCast, zpow_comm, zpow_natCast]
    _ ≤ (10 ^ q) ^ l := by
      rw [← inv_le_inv₀ (by positivity) (by positivity), ← zpow_neg, ← zpow_neg]
      exact zpow_le_zpow_left₀ (neg_nonneg.mpr hl) (by positivity) (by exact_mod_cast hpq)
    _ = 10 ^ (q * l) := by rw [zpow_mul, zpow_natCast]
    _ ≤ 10 ^ (p * c) := zpow_le_zpow_right₀ (by norm_num) hc
    _ = (10 ^ c) ^ p := by rw [mul_comm, zpow_mul, zpow_natCast]

/-- The logarithm of two lies between 0.30102 and 0.30103. -/
theorem two_zpow_le (h : 30103 * l ≤ 100000 * c) (h' : 30102 * l ≤ 100000 * c) :
    (2 : ℚ) ^ l ≤ 10 ^ c := by
  have hu : 2 ^ 100000 ≤ 10 ^ 30103 := by decide +kernel
  have hl : 10 ^ 30102 ≤ 2 ^ 100000 := by decide +kernel
  rcases le_total 0 l with hn | hn
  · exact two_zpow_le_of_nonneg (by norm_num) hu hn h
  · exact two_zpow_le_of_nonpos (by norm_num) hl hn h'

end Powers

namespace Neighbourhood

theorem low_pos (ha : h.IsAround i) (hi : 0 < i) : 0 < h.low := by
  have h0 : magnitude 0 = 0 := by simp [magnitude]
  have hp : 0 < magnitude i := h0 ▸ strictMono_magnitude hi
  have hm : 0 ≤ magnitude (i - 1) := h0 ▸ strictMono_magnitude.monotone (Nat.zero_le _)
  have hl := ha.low
  have hu : (0 : ℚ) < 2 ^ h.exponent := zpow_pos (by norm_num) _
  have hlow : (0 : ℚ) < h.low := by
    by_contra hn
    have := mul_nonpos_of_nonpos_of_nonneg (not_lt.mp hn) hu.le
    linarith
  exact_mod_cast hlow

theorem bounds_of_holds (hd : h.holds k d = true) :
    h.low * (h.scale k).2 ≤ d * (h.scale k).1 ∧ d * (h.scale k).1 ≤ h.high * (h.scale k).2 := by
  by_cases hc : h.closed = true
  · simpa [holds, hc] using hd
  · obtain ⟨hl, hh⟩ : h.low * (h.scale k).2 < d * (h.scale k).1 ∧
        d * (h.scale k).1 < h.high * (h.scale k).2 := by
      simpa [holds, hc] using hd
    exact ⟨hl.le, hh.le⟩

/-- Above the ceiling no multiple of a power of ten reads back but zero, which does not. -/
theorem not_holds_of_ceiling_lt (hl : 0 < h.low) (he : -1100 ≤ h.exponent) (hk : h.ceiling < k) :
    h.holds k d ≠ true := by
  intro hd
  obtain ⟨hld, hdh⟩ := bounds_of_holds hd
  have hd0 : 0 < d := by
    have := Nat.mul_pos hl (h.scale_pos k).2
    exact Nat.pos_of_mul_pos_right (this.trans_le hld)
  have hu : (0 : ℚ) < 2 ^ h.exponent := zpow_pos (by norm_num) _
  have ht : (0 : ℚ) < 10 ^ k := zpow_pos (by norm_num) _
  have hlog : (h.high : ℚ) < 2 ^ (h.high.log2 + 1) := by exact_mod_cast Nat.lt_log2_self
  have hL : (2 : ℚ) ^ ((h.high.log2 + 1 : Nat) + h.exponent : ℤ) ≤ 10 ^ k := by
    apply two_zpow_le <;> rw [ceiling] at hk <;> omega
  have hlt : (10 : ℚ) ^ k < 10 ^ k :=
    calc (10 : ℚ) ^ k ≤ d * 10 ^ k := le_mul_of_one_le_left ht.le (by exact_mod_cast hd0)
      _ ≤ h.high * 2 ^ h.exponent := (scaled_le_iff h.high).mp hdh
      _ < 2 ^ (h.high.log2 + 1) * 2 ^ h.exponent := mul_lt_mul_of_pos_right hlog hu
      _ = 2 ^ ((h.high.log2 + 1 : Nat) + h.exponent : ℤ) := by
        rw [zpow_add₀ (by norm_num), zpow_natCast]
      _ ≤ 10 ^ k := hL
  exact lt_irrefl _ hlt

/-- A power of ten has a multiple that reads back if it is no greater than half of the upper part of
the neighbourhood. -/
theorem holds_ceil_of_le (hh : h.value + 2 ≤ h.high) (hl : h.low < h.value)
    (hk : (10 : ℚ) ^ k ≤ 2 ^ h.exponent) : h.holds k (h.floor k + 1) = true := by
  have hab : (h.scale k).1 ≤ (h.scale k).2 := by
    have := (scaled_le_iff (h := h) (d := 1) (k := k) 1).mpr (by simpa using hk)
    simpa using this
  obtain ⟨hf, hc⟩ := h.floor_bounds k
  have hb := (h.scale_pos k).2
  have hlow := Nat.mul_lt_mul_of_pos_right hl hb
  have hhigh := Nat.mul_le_mul_right (h.scale k).2 hh
  rw [Nat.add_one_mul] at hc
  rw [Nat.add_mul] at hhigh
  simp only [holds, Nat.add_one_mul]
  split <;> simp only [Bool.and_eq_true, decide_eq_true_eq] <;> omega

theorem search_eq (steps : Nat) {k₀ : ℤ} (hs : k - steps < k₀) (hk : k₀ ≤ k)
    (hn : h.nearest? k₀ ≠ none) :
    h.nearest? (h.search steps k).2 = some (h.search steps k).1 ∧
      ∀ k', (h.search steps k).2 < k' → k' ≤ k → h.nearest? k' = none := by
  induction steps generalizing k with
  | zero => omega
  | succ steps ih =>
    rw [search]
    cases hk' : h.nearest? k with
    | some d => exact ⟨hk', fun k' h₁ h₂ => absurd (h₁.trans_le h₂) (lt_irrefl _)⟩
    | none =>
      have hne : k₀ ≠ k := by
        rintro rfl
        exact hn hk'
      obtain ⟨hd, ha⟩ := ih (k := k - 1) (by omega) (by omega)
      refine ⟨hd, fun k' h₁ h₂ => ?_⟩
      rcases h₂.lt_or_eq with h₂ | rfl
      · exact ha k' h₁ (by omega)
      · exact hk'

/-- The search finds the shortest decimal of every double. -/
theorem shortest_around (hi : 0 < i) (hb : i < infinityBits) :
    Shortest i (around i).shortest.1 (around i).shortest.2 := by
  have ha := isAround_around hi
  have hM : (if i / 2 ^ 52 = 0 then 0 else 2 ^ 52) + i % 2 ^ 52 < 2 ^ 53 := by split <;> omega
  have he : -1100 ≤ (around i).exponent ∧ (around i).exponent ≤ 1000 := by
    simp only [around, ofParts, infinityBits] at hb ⊢
    omega
  have hh : (around i).value + 2 ≤ (around i).high := by simp [around, ofParts]
  have hlog : (around i).high.log2 < 56 := by
    rw [Nat.log2_lt (by omega)]
    simp only [around, ofParts]
    omega
  have hf : (around i).nearest? ((around i).ceiling - 23) ≠ none := by
    intro hn
    refine (nearest?_eq_none_iff ha hi).mp hn _ (holds_ceil_of_le hh (low_lt_value ha hi) ?_)
    rw [← inv_le_inv₀ (by positivity) (by positivity), ← zpow_neg, ← zpow_neg]
    apply two_zpow_le <;> rw [ceiling] <;> omega
  obtain ⟨hd, hc⟩ := search_eq 24 (k := (around i).ceiling) (by omega) (by omega) hf
  obtain ⟨hr, hn⟩ := nearest?_eq_some ha hi hd
  refine ⟨(holds_iff ha hi hb).mp hr, fun d' k' hk hr' => ?_,
    fun d' hr' hne => hn d' ((holds_iff ha hi hb).mpr hr') hne⟩
  have hd' := (holds_iff ha hi hb).mpr hr'
  rcases le_or_gt k' (around i).ceiling with hle | hgt
  · exact (nearest?_eq_none_iff ha hi).mp (hc k' hk hle) d' hd'
  · exact not_holds_of_ceiling_lt (low_pos ha hi) he.1 hgt hd'

end Neighbourhood

/-- A power of ten behind a leading digit, with a sign and at least two digits. -/
inductive ShowsExponent : ℤ → String → Prop where
  | up (n : Nat) : 10 ≤ n → ShowsExponent n ("e+" ++ toString n)
  | upShort (n : Nat) : n < 10 → ShowsExponent n ("e+0" ++ toString n)
  | down (n : Nat) : 10 ≤ n → ShowsExponent (-n) ("e-" ++ toString n)
  | downShort (n : Nat) : 0 < n → n < 10 → ShowsExponent (-n) ("e-0" ++ toString n)

/-- How `d * 10 ^ k` is shown. The exponent is that of the leading digit. -/
inductive ShowsDecimal (d : Nat) (k : ℤ) : String → Prop where
  | whole (zeros : Nat) : k = zeros → (toString d).length + zeros ≤ 16 →
      ShowsDecimal d k (toString d ++ String.ofList (List.replicate zeros '0') ++ ".0")
  | mixed {whole fraction : String} : toString d = whole ++ fraction →
      0 < whole.length → whole.length ≤ 16 → 0 < fraction.length → k = -fraction.length →
      ShowsDecimal d k (whole ++ "." ++ fraction)
  | fraction (zeros : Nat) : zeros < 4 → k = -((toString d).length + zeros : Nat) →
      ShowsDecimal d k ("0." ++ String.ofList (List.replicate zeros '0') ++ toString d)
  | digit {e : ℤ} {exponent : String} : (toString d).length = 1 → e = k → (e < -4 ∨ 16 ≤ e) →
      ShowsExponent e exponent → ShowsDecimal d k (toString d ++ exponent)
  | digits {lead fraction : String} {e : ℤ} {exponent : String} : toString d = lead ++ fraction →
      lead.length = 1 → 0 < fraction.length → e = k + fraction.length → (e < -4 ∨ 16 ≤ e) →
      ShowsExponent e exponent → ShowsDecimal d k (lead ++ "." ++ fraction ++ exponent)

/-- How a double is shown. Its bits are one for the sign and those of the double without it. -/
inductive Shows (x : Float) : String → Prop where
  | nan : infinityBits < x.toBits.toNat % 2 ^ 63 → Shows x "nan"
  | infinity : x.toBits.toNat % 2 ^ 63 = infinityBits →
      Shows x ((if 2 ^ 63 ≤ x.toBits.toNat then "-" else "") ++ "inf")
  | zero : x.toBits.toNat % 2 ^ 63 = 0 →
      Shows x ((if 2 ^ 63 ≤ x.toBits.toNat then "-" else "") ++ "0.0")
  | decimal {d : Nat} {k : ℤ} {text : String} : 0 < x.toBits.toNat % 2 ^ 63 →
      x.toBits.toNat % 2 ^ 63 < infinityBits → Shortest (x.toBits.toNat % 2 ^ 63) d k →
      ShowsDecimal d k text → Shows x ((if 2 ^ 63 ≤ x.toBits.toNat then "-" else "") ++ text)

section Layouts

variable {e : ℤ} {n : Nat} {text : String}

theorem length_toString (n : Nat) : (toString n).length = (Nat.toDigits 10 n).length :=
  String.length_ofList

theorem length_toString_le_one_iff : (toString n).length ≤ 1 ↔ n < 10 := by
  rw [length_toString]
  exact Nat.length_toDigits_le_iff (b := 10) (by decide) Nat.one_pos

theorem length_toString_pos (n : Nat) : 0 < (toString n).length := by
  rw [length_toString]
  exact Nat.length_toDigits_pos

theorem length_take (s : String) (n : Nat) :
    (String.ofList (s.toList.take n)).length = min n s.length := by
  rw [String.length_ofList, List.length_take, String.length_toList]

theorem length_drop (s : String) (n : Nat) :
    (String.ofList (s.toList.drop n)).length = s.length - n := by
  rw [String.length_ofList, List.length_drop, String.length_toList]

theorem take_of_append {s whole fraction : String} (h : s = whole ++ fraction) :
    String.ofList (s.toList.take whole.length) = whole ∧
      String.ofList (s.toList.drop whole.length) = fraction := by
  rw [h, String.toList_append, ← String.length_toList, List.take_left, List.drop_left,
    String.ofList_toList, String.ofList_toList]
  exact ⟨rfl, rfl⟩

theorem exponentPart_eq (e : ℤ) : layout.exponentPart e =
    (if e < 0 then "e-" else "e+") ++ (if e.natAbs < 10 then "0" else "") ++ toString e.natAbs := by
  have hp := length_toString_pos e.natAbs
  have hl := length_toString_le_one_iff (n := e.natAbs)
  rw [Layout.exponentPart]
  congr 2
  split
  · next h =>
    rw [show (toString e.natAbs).length = 1 by omega]
    rfl
  · next h =>
    rw [show layout.exponentWidth - (toString e.natAbs).length = 0 from
      Nat.sub_eq_zero_of_le (show 2 ≤ _ by omega)]
    rfl

theorem showsExponent_iff : ShowsExponent e text ↔ text = layout.exponentPart e := by
  rw [exponentPart_eq]
  constructor
  · rintro (⟨n, hn⟩ | ⟨n, hn⟩ | ⟨n, hn⟩ | ⟨n, h0, hn⟩)
    · simp [Nat.not_lt.mpr hn, show ¬ (n : ℤ) < 0 by omega]
    · simp [hn, show ¬ (n : ℤ) < 0 by omega]
    · simp [Nat.not_lt.mpr hn, show 0 < n by omega]
    · simp [hn, h0]
  · rintro rfl
    obtain ⟨n, rfl | rfl⟩ := e.eq_nat_or_neg
    · have hp : ¬ (n : ℤ) < 0 := by omega
      rcases Nat.lt_or_ge n 10 with hn | hn
      · simpa [hn, hp] using ShowsExponent.upShort n hn
      · simpa [Nat.not_lt.mpr hn, hp] using ShowsExponent.up n hn
    · rcases Nat.eq_zero_or_pos n with rfl | h0
      · exact .upShort 0 (by decide)
      rcases Nat.lt_or_ge n 10 with hn | hn
      · simpa [hn, h0] using ShowsExponent.downShort n h0 hn
      · simpa [Nat.not_lt.mpr hn, h0] using ShowsExponent.down n hn

theorem write_eq (d : Nat) (k : ℤ) : layout.write d k =
    if -4 < k + (toString d).length ∧ k + (toString d).length ≤ 16 then
      if 0 ≤ k then toString d ++ String.ofList (List.replicate k.toNat '0') ++ ".0"
      else if 0 < k + (toString d).length then
        String.ofList ((toString d).toList.take (k + (toString d).length).toNat) ++ "." ++
          String.ofList ((toString d).toList.drop (k + (toString d).length).toNat)
      else "0." ++ String.ofList (List.replicate (-(k + (toString d).length)).toNat '0') ++
        toString d
    else String.ofList ((toString d).toList.take 1) ++
      (if (toString d).length = 1 then "" else
        "." ++ String.ofList ((toString d).toList.drop 1)) ++
        layout.exponentPart (k + (toString d).length - 1) := by
  have hs : toString d = String.ofList (Nat.toDigits 10 d) := rfl
  simp only [Layout.write, Bool.and_eq_true, decide_eq_true_eq, hs, String.length_ofList,
    String.toList_ofList]
  rfl

theorem showsDecimal_write (d : Nat) (k : ℤ) : ShowsDecimal d k (layout.write d k) := by
  have hp := length_toString_pos d
  have hs : ∀ n, toString d =
      String.ofList ((toString d).toList.take n) ++ String.ofList ((toString d).toList.drop n) := by
    intro n
    rw [← String.ofList_append, List.take_append_drop, String.ofList_toList]
  rw [write_eq]
  split
  · next hx =>
    split
    · exact .whole k.toNat (by omega) (by omega)
    · next hk =>
      split
      · refine .mixed (hs _) ?_ ?_ ?_ ?_ <;> simp only [length_take, length_drop] <;> omega
      · exact .fraction _ (by omega) (by omega)
  · next hx =>
    by_cases hd : (toString d).length = 1
    · have ht : (toString d).toList.take 1 = (toString d).toList :=
        List.take_of_length_le (by rw [String.length_toList, hd])
      rw [if_pos hd, String.append_empty, ht, String.ofList_toList]
      exact .digit hd (by omega) (by omega) (showsExponent_iff.mpr rfl)
    · rw [if_neg hd, ← String.append_assoc]
      refine .digits (hs 1) ?_ ?_ ?_ (by omega) (showsExponent_iff.mpr rfl) <;>
        simp only [length_take, length_drop] <;> omega

theorem ShowsDecimal.eq_write (h : ShowsDecimal d k text) : text = layout.write d k := by
  have hp := length_toString_pos d
  rw [write_eq]
  cases h with
  | whole zeros hk hl =>
    rw [if_pos (by omega), if_pos (by omega), hk, Int.toNat_natCast]
  | @mixed whole fraction hd hw hl hf hk =>
    have hs := congrArg String.length hd
    rw [String.length_append] at hs
    obtain ⟨ht, hr⟩ := take_of_append hd
    rw [if_pos (by omega), if_neg (by omega), if_pos (by omega),
      show (k + (toString d).length).toNat = whole.length by omega, ht, hr]
  | fraction zeros hz hk =>
    rw [if_pos (by omega), if_neg (by omega), if_neg (by omega),
      show (-(k + (toString d).length)).toNat = zeros by omega]
  | digit hd he hx hs =>
    have ht : (toString d).toList.take 1 = (toString d).toList :=
      List.take_of_length_le (by rw [String.length_toList, hd])
    rw [if_neg (by omega), if_pos hd, String.append_empty, ht, String.ofList_toList,
      showsExponent_iff.mp hs, he, show k + (toString d).length - 1 = k by omega]
  | @digits lead fraction _ _ hd hw hf he hx hs =>
    have hl := congrArg String.length hd
    rw [String.length_append] at hl
    obtain ⟨ht, hr⟩ := take_of_append hd
    rw [hw] at ht hr
    rw [if_neg (by omega), if_neg (by omega), ht, hr, showsExponent_iff.mp hs, he,
      ← String.append_assoc, show k + (toString d).length - 1 = k + fraction.length by omega]

theorem showsDecimal_iff : ShowsDecimal d k text ↔ text = layout.write d k := by
  constructor
  · exact ShowsDecimal.eq_write
  · rintro rfl
    exact showsDecimal_write d k

end Layouts

section Doubles

variable {x : Float} {text : String}

theorem ofBits_cases (bits : Nat) :
    (infinityBits < bits % 2 ^ 63 ∧ Parts.ofBits bits = .nan) ∨
      (bits % 2 ^ 63 = infinityBits ∧ Parts.ofBits bits = .infinity (bits / 2 ^ 63 % 2 == 1)) ∨
      (bits % 2 ^ 63 = 0 ∧ Parts.ofBits bits = .zero (bits / 2 ^ 63 % 2 == 1)) ∨
      (0 < bits % 2 ^ 63 ∧ bits % 2 ^ 63 < infinityBits ∧ ∃ mantissa exponent leastOfBinade,
        Parts.ofBits bits = .finite (bits / 2 ^ 63 % 2 == 1) mantissa exponent leastOfBinade ∧
          Neighbourhood.ofParts mantissa exponent leastOfBinade =
            Neighbourhood.around (bits % 2 ^ 63)) := by
  have he : bits % 2 ^ 63 / 2 ^ 52 = bits / 2 ^ 52 % 2 ^ 11 := by omega
  have hm : bits % 2 ^ 63 % 2 ^ 52 = bits % 2 ^ 52 := by omega
  have hd := Nat.div_add_mod (bits % 2 ^ 63) (2 ^ 52)
  rw [he, hm] at hd
  simp only [Parts.ofBits, Nat.pow_eq, Neighbourhood.around, he, hm, infinityBits]
  have hle : bits / 2 ^ 52 % 2 ^ 11 < 2 ^ 11 := Nat.mod_lt _ (by norm_num)
  have hlm : bits % 2 ^ 52 < 2 ^ 52 := Nat.mod_lt _ (by norm_num)
  generalize bits / 2 ^ 52 % 2 ^ 11 = e at *
  generalize bits % 2 ^ 52 = m at *
  rw [← hd]
  by_cases h1 : e = 2047
  · rw [if_pos h1]
    by_cases h2 : m = 0
    · exact .inr (.inl ⟨by omega, if_pos h2⟩)
    · exact .inl ⟨by omega, if_neg h2⟩
  · rw [if_neg h1]
    by_cases h3 : e = 0
    · rw [if_pos h3]
      by_cases h2 : m = 0
      · exact .inr (.inr (.inl ⟨by omega, if_pos h2⟩))
      · refine .inr (.inr (.inr ⟨by omega, by omega, m, -1074, false, if_neg h2, ?_⟩))
        simp [h3]
    · rw [if_neg h3]
      refine .inr (.inr (.inr ⟨by omega, by omega, _, _, _, rfl, ?_⟩))
      rw [if_neg h3, Nat.add_comm, Nat.max_eq_left (Nat.pos_of_ne_zero h3)]
      congr 2
      exact decide_eq_decide.mpr (by omega)

theorem signed_eq (s : String) :
    signed (x.toBits.toNat / 2 ^ 63 % 2 == 1) s =
      (if 2 ^ 63 ≤ x.toBits.toNat then "-" else "") ++ s := by
  have hb := x.toBits.toNat_lt
  by_cases h : 2 ^ 63 ≤ x.toBits.toNat
  · rw [if_pos h, signed, if_pos (by rw [beq_iff_eq]; omega)]
  · rw [if_neg h, signed, if_neg (by rw [beq_iff_eq]; omega), String.empty_append]

theorem shows_writeFloat (x : Float) : Shows x (writeFloat x) := by
  rw [writeFloat, Parts.ofFloat]
  rcases ofBits_cases x.toBits.toNat with ⟨hi, hp⟩ | ⟨hi, hp⟩ | ⟨hi, hp⟩ |
    ⟨h0, hi, mantissa, exponent, least, hp, ha⟩
  · rw [hp]
    exact .nan hi
  · rw [hp, writeParts, signed_eq]
    exact .infinity hi
  · rw [hp, writeParts, signed_eq]
    exact .zero hi
  · simp only [hp, writeParts, ha, signed_eq]
    exact .decimal h0 hi (Neighbourhood.shortest_around h0 hi) (showsDecimal_write _ _)

theorem Shows.unique {text' : String} (h : Shows x text) (h' : Shows x text') : text = text' := by
  have h0 : 0 < infinityBits := by norm_num [infinityBits]
  cases h with
  | nan hi => cases h' <;> first | rfl | omega
  | infinity hi => cases h' <;> first | rfl | omega
  | zero hi => cases h' <;> first | rfl | omega
  | decimal hi hb hs hd =>
    cases h' with
    | decimal _ _ hs' hd' =>
      obtain ⟨rfl, rfl⟩ := hs.unique hs'
      rw [showsDecimal_iff.mp hd, showsDecimal_iff.mp hd']
    | _ => omega

theorem shows_iff : Shows x text ↔ text = writeFloat x := by
  constructor
  · exact fun h => h.unique (shows_writeFloat x)
  · rintro rfl
    exact shows_writeFloat x

end Doubles

end InvocationClient.Number
