import InvocationClient.Number.Decimal
import Mathlib.Algebra.Order.Field.Power
import Mathlib.Algebra.Order.Ring.Abs
import Mathlib.Data.Rat.Cast.Order
import Mathlib.Order.Monotone.Basic
import Mathlib.Tactic.Linarith
import Mathlib.Tactic.Ring

/-! # Rounding to doubles

The doubles that are not negative, in their order. A number reads as the nearest of them, and as the
even one if two are equally near. So it reads as a double if it lies between the middles of the gaps
on the two sides of that.
-/

namespace InvocationClient.Number

variable {i j : Nat} {q a b : ℚ}

/-- The double with the bits of `i`. What comes behind the greatest is not one, but it is what all
that is greater would be nearest to. -/
def magnitude (i : Nat) : ℚ :=
  ((if i / 2 ^ 52 = 0 then 0 else 2 ^ 52) + i % 2 ^ 52 : Nat) *
    2 ^ ((max (i / 2 ^ 52) 1 : Nat) - 1075 : ℤ)

/-- The bits of infinity, behind those of the greatest double. -/
def infinityBits : Nat := 2047 * 2 ^ 52

/-- Whether a number reads as the double with the bits of `i`. -/
def ReadsAs (q : ℚ) (i : Nat) : Prop :=
  ∀ j ≤ infinityBits, j ≠ i → |q - magnitude i| < |q - magnitude j| ∨
    (|q - magnitude i| = |q - magnitude j| ∧ i % 2 = 0)

def gap (i : Nat) : ℚ := 2 ^ ((max (i / 2 ^ 52) 1 : Nat) - 1075 : ℤ)

theorem gap_pos (i : Nat) : 0 < gap i := zpow_pos (by norm_num) _

theorem magnitude_succ (i : Nat) : magnitude (i + 1) = magnitude i + gap i := by
  have hi := Nat.div_add_mod i (2 ^ 52)
  have hm := Nat.mod_lt i (show 0 < 2 ^ 52 by norm_num)
  rw [magnitude, magnitude, gap]
  generalize i / 2 ^ 52 = e at *
  generalize i % 2 ^ 52 = m at *
  subst hi
  rcases Nat.lt_or_ge (m + 1) (2 ^ 52) with h | h
  · have hd : (2 ^ 52 * e + m + 1) / 2 ^ 52 = e := by omega
    have hr : (2 ^ 52 * e + m + 1) % 2 ^ 52 = m + 1 := by omega
    rw [hd, hr]
    push_cast
    ring
  · have hd : (2 ^ 52 * e + m + 1) / 2 ^ 52 = e + 1 := by omega
    have hr : (2 ^ 52 * e + m + 1) % 2 ^ 52 = 0 := by omega
    obtain rfl : m = 2 ^ 52 - 1 := by omega
    rw [hd, hr]
    by_cases he : e = 0
    · subst he
      rw [if_pos rfl, if_neg (Nat.succ_ne_zero 0), show max (0 + 1) 1 = max 0 1 from rfl]
      push_cast
      ring
    · have hx : ((max (e + 1) 1 : Nat) : ℤ) - 1075 = ((max e 1 : Nat) - 1075 : ℤ) + 1 := by omega
      rw [if_neg he, if_neg (Nat.succ_ne_zero e), hx, zpow_add_one₀ (by norm_num)]
      push_cast
      ring

theorem strictMono_magnitude : StrictMono magnitude :=
  strictMono_nat_of_lt_succ fun i => by
    rw [magnitude_succ]
    exact lt_add_of_pos_right _ (gap_pos i)

theorem abs_lt_iff_of_lt (h : a < b) : |q - a| < |q - b| ↔ 2 * q < a + b := by
  rw [← sq_lt_sq, ← sub_pos, show (q - b) ^ 2 - (q - a) ^ 2 = (b - a) * (a + b - 2 * q) by ring,
    mul_pos_iff_of_pos_left (sub_pos.mpr h), sub_pos]

theorem abs_lt_iff_of_gt (h : b < a) : |q - a| < |q - b| ↔ a + b < 2 * q := by
  rw [← sq_lt_sq, ← sub_pos, show (q - b) ^ 2 - (q - a) ^ 2 = (a - b) * (2 * q - (a + b)) by ring,
    mul_pos_iff_of_pos_left (sub_pos.mpr h), sub_pos]

theorem abs_eq_iff_of_ne (h : a ≠ b) : |q - a| = |q - b| ↔ 2 * q = a + b := by
  rw [← sq_eq_sq_iff_abs_eq_abs, ← sub_eq_zero,
    show (q - a) ^ 2 - (q - b) ^ 2 = (b - a) * (2 * q - (a + b)) by ring, mul_eq_zero,
    or_iff_right (sub_ne_zero.mpr h.symm), sub_eq_zero]

/-- A number reads as a double if it lies between the middles of the gaps on its two sides. The
middles themselves read as the even one of their neighbours. -/
theorem readsAs_iff (hi : 0 < i) (hb : i < infinityBits) :
    ReadsAs q i ↔
      (magnitude (i - 1) + magnitude i < 2 * q ∨
        (magnitude (i - 1) + magnitude i = 2 * q ∧ i % 2 = 0)) ∧
      (2 * q < magnitude i + magnitude (i + 1) ∨
        (2 * q = magnitude i + magnitude (i + 1) ∧ i % 2 = 0)) := by
  have hl : magnitude (i - 1) < magnitude i := strictMono_magnitude (by omega)
  have hh : magnitude i < magnitude (i + 1) := strictMono_magnitude (by omega)
  constructor
  · intro h
    have hp := h (i - 1) (by omega) (by omega)
    have hs := h (i + 1) (by omega) (by omega)
    rw [abs_lt_iff_of_gt hl, abs_eq_iff_of_ne hl.ne', add_comm, eq_comm] at hp
    rw [abs_lt_iff_of_lt hh, abs_eq_iff_of_ne hh.ne] at hs
    exact ⟨hp, hs⟩
  · rintro ⟨hp, hs⟩ j hj hn
    rcases Nat.lt_or_gt_of_ne hn with hji | hij
    · have hm : magnitude j ≤ magnitude (i - 1) := strictMono_magnitude.monotone (by omega)
      have hlt : magnitude j < magnitude i := hm.trans_lt hl
      rw [abs_lt_iff_of_gt hlt, abs_eq_iff_of_ne hlt.ne']
      rcases hp with hp | ⟨hp, he⟩
      · exact .inl (by linarith)
      · rcases hm.lt_or_eq with hm | hm
        · exact .inl (by linarith)
        · exact .inr ⟨by linarith, he⟩
    · have hm : magnitude (i + 1) ≤ magnitude j := strictMono_magnitude.monotone hij
      have hlt : magnitude i < magnitude j := hh.trans_le hm
      rw [abs_lt_iff_of_lt hlt, abs_eq_iff_of_ne hlt.ne]
      rcases hs with hs | ⟨hs, he⟩
      · exact .inl (by linarith)
      · rcases hm.lt_or_eq with hm | hm
        · exact .inl (by linarith)
        · exact .inr ⟨by linarith, he⟩

end InvocationClient.Number
