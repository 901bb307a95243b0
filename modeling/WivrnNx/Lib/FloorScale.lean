import Mathlib.Tactic

/-!
# Change of unit with truncation

`scale a b n` is `n` units of one kind, `b` to the second, in units of which `a` go to the second,
rounded down. Both directions round down, so that the way back and forth never gains: it loses
less than one unit of each kind, and nothing exactly when the way there rounds nothing off
(`scale_back_eq_iff`).
-/

namespace FloorScale

variable {a b m n : ℤ}

def scale (a b n : ℤ) : ℤ := n * a / b

theorem scale_mul_le (hb : 0 < b) : scale a b n * b ≤ n * a := Int.ediv_mul_le _ hb.ne'

theorem lt_scale_mul (hb : 0 < b) : n * a < (scale a b n + 1) * b :=
  Int.lt_ediv_add_one_mul_self _ hb

theorem scale_nonneg (ha : 0 ≤ a) (hb : 0 ≤ b) (hn : 0 ≤ n) : 0 ≤ scale a b n :=
  Int.ediv_nonneg (mul_nonneg hn ha) hb

theorem scale_mono (ha : 0 ≤ a) (hb : 0 < b) (h : m ≤ n) : scale a b m ≤ scale a b n := by
  have hmul : m * a ≤ n * a := mul_le_mul_of_nonneg_right h ha
  exact Int.ediv_le_ediv hb hmul

theorem scale_lt_of_mul_lt {k : ℤ} (hb : 0 < b) (h : n * a < k * b) : scale a b n < k :=
  Int.ediv_lt_of_lt_mul hb h

/-! ## There and back -/

theorem scale_back_le (ha : 0 < a) (hb : 0 < b) : scale b a (scale a b n) ≤ n := by
  have hthere : scale a b n * b ≤ n * a := scale_mul_le hb
  have hback : scale b a (scale a b n) * a ≤ scale a b n * b := scale_mul_le ha
  exact le_of_mul_le_mul_right (hback.trans hthere) ha

/-- Less than a unit of each kind is lost. -/
theorem lt_scale_back (ha : 0 < a) (hb : 0 < b) :
    n * a < scale b a (scale a b n) * a + a + b := by
  have hthere : n * a < (scale a b n + 1) * b := lt_scale_mul hb
  have hback : scale a b n * b < (scale b a (scale a b n) + 1) * a := lt_scale_mul ha
  linarith

theorem scale_back_eq_iff (ha : 0 < a) (hb : 0 < b) :
    scale b a (scale a b n) = n ↔ b ∣ n * a := by
  constructor
  · intro h
    have hthere : scale a b n * b ≤ n * a := scale_mul_le hb
    have hback : scale b a (scale a b n) * a ≤ scale a b n * b := scale_mul_le ha
    rw [h] at hback
    exact ⟨scale a b n, (hback.antisymm hthere).trans (mul_comm _ _)⟩
  · intro h
    have hthere : scale a b n * b = n * a := Int.ediv_mul_cancel h
    rw [scale, hthere]
    exact Int.mul_ediv_cancel n ha.ne'

end FloorScale
