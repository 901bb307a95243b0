import Mathlib.Tactic

/-!
# Means of lists

The mean of a list of numbers, with what an estimate by a mean rests on: means subtract, the
deviations from a mean cancel, and a mean of readings is no further from the truth than the mean
of the readings' own errors (`abs_mean_sub_le`).
-/

namespace Mean

variable {α K : Type*} [Field K]

def mean (xs : List K) : K := xs.sum / xs.length

theorem length_ne_zero [CharZero K] {xs : List α} (hne : xs ≠ []) : (xs.length : K) ≠ 0 :=
  Nat.cast_ne_zero.mpr (List.length_pos_iff.mpr hne).ne'

theorem sum_map_sub (f g : α → K) (xs : List α) :
    (xs.map fun x => f x - g x).sum = (xs.map f).sum - (xs.map g).sum := by
  induction xs with
  | nil => simp
  | cons x xs ih =>
    simp only [List.map_cons, List.sum_cons, ih]
    ring

theorem mean_map_sub (f g : α → K) (xs : List α) :
    mean (xs.map fun x => f x - g x) = mean (xs.map f) - mean (xs.map g) := by
  simp only [mean, sum_map_sub, List.length_map, sub_div]

theorem mean_map_const [CharZero K] {xs : List α} (hne : xs ≠ []) (d : K) :
    mean (xs.map fun _ => d) = d := by
  have hlen : (xs.length : K) ≠ 0 := length_ne_zero hne
  simp only [mean, List.map_const', List.sum_replicate, List.length_replicate, nsmul_eq_mul]
  field_simp

/-- What lies above the mean and what lies below it cancel. -/
theorem sum_deviations [CharZero K] {xs : List α} (hne : xs ≠ []) (f : α → K) :
    (xs.map fun x => f x - mean (xs.map f)).sum = 0 := by
  have hlen : (xs.length : K) ≠ 0 := length_ne_zero hne
  rw [sum_map_sub, List.map_const', List.sum_replicate, nsmul_eq_mul, mean, List.length_map]
  field_simp
  ring

theorem mean_map_neg (f : α → K) (xs : List α) :
    mean (xs.map fun x => -f x) = -mean (xs.map f) := by
  have h := mean_map_sub (fun _ => 0) f xs
  simpa [mean] using h

theorem mean_map_div (f : α → K) (c : K) (xs : List α) :
    mean (xs.map fun x => f x / c) = mean (xs.map f) / c := by
  simp only [mean, List.length_map, div_eq_mul_inv _ c, List.sum_map_mul_right]
  ring

/-! ## Bounds -/

variable [LinearOrder K] [IsStrictOrderedRing K]

theorem mean_map_le {f g : α → K} {xs : List α} (h : ∀ x ∈ xs, f x ≤ g x) :
    mean (xs.map f) ≤ mean (xs.map g) := by
  simp only [mean, List.length_map]
  exact div_le_div_of_nonneg_right (List.sum_le_sum h) (Nat.cast_nonneg _)

/-- Readings that are each within an error of their own of `d` have a mean that is within the mean
error of it. -/
theorem abs_mean_sub_le {f error : α → K} {d : K} {xs : List α} (hne : xs ≠ [])
    (h : ∀ x ∈ xs, |f x - d| ≤ error x) : |mean (xs.map f) - d| ≤ mean (xs.map error) := by
  have hdev : mean (xs.map fun x => f x - d) = mean (xs.map f) - d := by
    rw [mean_map_sub, mean_map_const hne]
  rw [← hdev, abs_le]
  constructor
  · rw [← mean_map_neg]
    exact mean_map_le fun x hx => (abs_le.mp (h x hx)).1
  · exact mean_map_le fun x hx => (abs_le.mp (h x hx)).2

end Mean
