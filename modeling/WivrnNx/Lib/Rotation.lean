import WivrnNx.Lib.Numerals
import Mathlib.Algebra.Quaternion
import Mathlib.LinearAlgebra.UnitaryGroup

/-!
# Rotations as unit quaternions and as matrices

A unit quaternion `q` rotates a vector by `q * v * star q`, and `matrix q` is that rotation's
matrix. The way back goes by the products of components: `gram R` is linear in the matrix, and is
`4 * q j * q k` when the matrix is that of `q`. For any rotation it has rank one
(`gram_rank_one`), so that every row of it that is not zero is a multiple of the quaternion.

- `matrix_mulVec`, `matrix_mul`, `matrix_isRotation`: from quaternions to matrices;
- `matrix_of_gram`, `gram_matrix`, `eq_or_eq_neg`: and back, up to a sign.
-/

open scoped Quaternion Numerals
open Matrix

namespace Rotation

section CommRing

variable {K : Type*} [CommRing K]

/-- The components of a quaternion. -/
def components (q : ℍ[K]) : Fin 4 → K := ![q.re, q.imI, q.imJ, q.imK]

/-- The quaternion of four components. -/
def ofComponents (q : Fin 4 → K) : ℍ[K] := ⟨q 0, q 1, q 2, q 3⟩

@[simp] theorem components_ofComponents (q : Fin 4 → K) : components (ofComponents q) = q := by
  funext j
  fin_cases j <;> rfl

@[simp] theorem ofComponents_components (q : ℍ[K]) : ofComponents (components q) = q := rfl

theorem components_neg (q : ℍ[K]) : components (-q) = -components q := by
  funext j
  fin_cases j <;> rfl

theorem sum_components_sq (q : ℍ[K]) :
    ∑ j, components q j ^ 2 = Quaternion.normSq q := by
  rw [Quaternion.normSq_def', Fin.sum_univ_four]
  rfl

/-- A vector as a quaternion. -/
def ofVec (v : Fin 3 → K) : ℍ[K] := ⟨0, v 0, v 1, v 2⟩

@[simp] theorem ofVec_re (v : Fin 3 → K) : (ofVec v).re = 0 := rfl
@[simp] theorem ofVec_imI (v : Fin 3 → K) : (ofVec v).imI = v 0 := rfl
@[simp] theorem ofVec_imJ (v : Fin 3 → K) : (ofVec v).imJ = v 1 := rfl
@[simp] theorem ofVec_imK (v : Fin 3 → K) : (ofVec v).imK = v 2 := rfl

theorem ofVec_injective : Function.Injective (ofVec : (Fin 3 → K) → ℍ[K]) := by
  intro u v h
  funext i
  fin_cases i
  · exact congrArg QuaternionAlgebra.imI h
  · exact congrArg QuaternionAlgebra.imJ h
  · exact congrArg QuaternionAlgebra.imK h

/-- The matrix of a quaternion. -/
def matrix (q : ℍ[K]) : Matrix (Fin 3) (Fin 3) K :=
  !![1 - 2 * (q.imJ ^ 2 + q.imK ^ 2), 2 * (q.imI * q.imJ - q.re * q.imK),
      2 * (q.imI * q.imK + q.re * q.imJ);
    2 * (q.imI * q.imJ + q.re * q.imK), 1 - 2 * (q.imI ^ 2 + q.imK ^ 2),
      2 * (q.imJ * q.imK - q.re * q.imI);
    2 * (q.imI * q.imK - q.re * q.imJ), 2 * (q.imJ * q.imK + q.re * q.imI),
      1 - 2 * (q.imI ^ 2 + q.imJ ^ 2)]

/-! ## From quaternions to matrices -/

/-- The matrix of a unit quaternion rotates as the quaternion does. -/
theorem matrix_mulVec {q : ℍ[K]} (hq : Quaternion.normSq q = 1) (v : Fin 3 → K) :
    ofVec (matrix q *ᵥ v) = q * ofVec v * star q := by
  rw [Quaternion.normSq_def'] at hq
  ext
  · simp
    -- The matrix has the diagonal of a unit quaternion: each row needs the length once
    ring
  · simp [matrix, dotProduct, Fin.sum_univ_three]
    linear_combination -(v 0) * hq
  · simp [matrix, dotProduct, Fin.sum_univ_three]
    linear_combination -(v 1) * hq
  · simp [matrix, dotProduct, Fin.sum_univ_three]
    linear_combination -(v 2) * hq

theorem normSq_mul_unit {p q : ℍ[K]} (hp : Quaternion.normSq p = 1)
    (hq : Quaternion.normSq q = 1) : Quaternion.normSq (p * q) = 1 := by
  rw [map_mul, hp, hq, one_mul]

/-- One rotation after the other. -/
theorem matrix_mul {p q : ℍ[K]} (hp : Quaternion.normSq p = 1) (hq : Quaternion.normSq q = 1) :
    matrix (p * q) = matrix p * matrix q := by
  -- Both turn every vector alike
  refine Matrix.ext_of_mulVec_single fun i => ofVec_injective ?_
  rw [← Matrix.mulVec_mulVec, matrix_mulVec (normSq_mul_unit hp hq), matrix_mulVec hp,
    matrix_mulVec hq, star_mul]
  noncomm_ring

/-! ## Rotation matrices -/

/-- A proper rotation. -/
structure IsRotation (R : Matrix (Fin 3) (Fin 3) K) : Prop where
  orthogonal : R * Rᵀ = 1
  det : R.det = 1

theorem IsRotation.of_mem {R : Matrix (Fin 3) (Fin 3) K}
    (h : R ∈ specialOrthogonalGroup (Fin 3) K) : IsRotation R where
  orthogonal := (mem_orthogonalGroup_iff (Fin 3) K).mp (mem_specialOrthogonalGroup_iff.mp h).1
  det := (mem_specialOrthogonalGroup_iff.mp h).2

theorem matrix_isRotation {q : ℍ[K]} (hq : Quaternion.normSq q = 1) : IsRotation (matrix q) where
  orthogonal := by
    rw [Quaternion.normSq_def'] at hq
    ext i j
    fin_cases i <;> fin_cases j <;>
      simp [matrix, Matrix.mul_apply, Fin.sum_univ_three] <;> grind
  det := by
    rw [Quaternion.normSq_def'] at hq
    simp [matrix, Matrix.det_fin_three]
    grind

/-- A rotation's inverse is both its transpose and its adjugate. -/
theorem IsRotation.adjugate {R : Matrix (Fin 3) (Fin 3) K} (h : IsRotation R) :
    R.adjugate = Rᵀ := by
  calc R.adjugate = R.adjugate * (R * Rᵀ) := by rw [h.orthogonal, mul_one]
    _ = (R.adjugate * R) * Rᵀ := (mul_assoc _ _ _).symm
    _ = Rᵀ := by rw [Matrix.adjugate_mul, h.det, one_smul, one_mul]

/-- Four times the products of the components of the quaternion of a rotation. -/
def gram (R : Matrix (Fin 3) (Fin 3) K) : Matrix (Fin 4) (Fin 4) K :=
  !![1 + R 0 0 + R 1 1 + R 2 2, R 2 1 - R 1 2, R 0 2 - R 2 0, R 1 0 - R 0 1;
    R 2 1 - R 1 2, 1 + R 0 0 - R 1 1 - R 2 2, R 0 1 + R 1 0, R 0 2 + R 2 0;
    R 0 2 - R 2 0, R 0 1 + R 1 0, 1 + R 1 1 - R 0 0 - R 2 2, R 1 2 + R 2 1;
    R 1 0 - R 0 1, R 0 2 + R 2 0, R 1 2 + R 2 1, 1 + R 2 2 - R 0 0 - R 1 1]

theorem gram_comm (R : Matrix (Fin 3) (Fin 3) K) (j k : Fin 4) : gram R j k = gram R k j := by
  fin_cases j <;> fin_cases k <;> rfl

theorem trace_gram (R : Matrix (Fin 3) (Fin 3) K) : ∑ j, gram R j j = 4 := by
  simp [gram, Fin.sum_univ_four]
  ring

theorem gram_matrix {q : ℍ[K]} (hq : Quaternion.normSq q = 1) (j k : Fin 4) :
    gram (matrix q) j k = 4 * components q j * components q k := by
  wlog hle : j ≤ k generalizing j k
  · rw [gram_comm, this k j (le_of_not_ge hle)]
    ring
  rw [Quaternion.normSq_def'] at hq
  fin_cases j <;> fin_cases k <;> first | exact absurd hle (by decide) | skip
  all_goals
    simp [gram, matrix, components]
    grind

/-- The nine cofactors of a rotation are its entries. -/
theorem IsRotation.cofactors {R : Matrix (Fin 3) (Fin 3) K} (h : IsRotation R) :
    (R 1 1 * R 2 2 - R 1 2 * R 2 1 = R 0 0 ∧ R 1 2 * R 2 0 - R 1 0 * R 2 2 = R 0 1 ∧
      R 1 0 * R 2 1 - R 1 1 * R 2 0 = R 0 2) ∧
    (R 0 2 * R 2 1 - R 0 1 * R 2 2 = R 1 0 ∧ R 0 0 * R 2 2 - R 0 2 * R 2 0 = R 1 1 ∧
      R 0 1 * R 2 0 - R 0 0 * R 2 1 = R 1 2) ∧
    (R 0 1 * R 1 2 - R 0 2 * R 1 1 = R 2 0 ∧ R 0 2 * R 1 0 - R 0 0 * R 1 2 = R 2 1 ∧
      R 0 0 * R 1 1 - R 0 1 * R 1 0 = R 2 2) := by
  -- The adjugate is made of the cofactors
  have hadj := h.adjugate
  rw [Matrix.adjugate_fin_three, ← Matrix.ext_iff] at hadj
  have hentry := fun i j => hadj j i
  simp only [Fin.forall_fin_succ, Matrix.transpose_apply] at hentry
  simp at hentry
  grind

/-- The rows and the columns of a rotation have length one. -/
theorem IsRotation.lengths {R : Matrix (Fin 3) (Fin 3) K} (h : IsRotation R) (i : Fin 3) :
    R i 0 ^ 2 + R i 1 ^ 2 + R i 2 ^ 2 = 1 ∧ R 0 i ^ 2 + R 1 i ^ 2 + R 2 i ^ 2 = 1 := by
  have hrow := congrFun (congrFun h.orthogonal i) i
  have horth : Rᵀ * R = 1 := mul_eq_one_comm.mp h.orthogonal
  have hcol := congrFun (congrFun horth i) i
  simp only [Matrix.mul_apply, Fin.sum_univ_three, Matrix.transpose_apply,
    Matrix.one_apply_eq] at hrow hcol
  constructor
  · rw [← hrow]
    ring
  · rw [← hcol]
    ring

/-- Each row is a multiple of any other: all the two by two minors on the diagonal vanish. -/
theorem gram_rank_one {R : Matrix (Fin 3) (Fin 3) K} (h : IsRotation R) (b j k : Fin 4) :
    gram R b j * gram R b k = gram R b b * gram R j k := by
  -- A minor with the diagonal entry in it twice is zero of any matrix
  by_cases hj : j = b
  · rw [hj]
  by_cases hk : k = b
  · rw [hk, mul_comm, gram_comm R j]
  wlog hle : j ≤ k generalizing j k
  · rw [mul_comm, gram_comm R j]
    exact this k j hk hj (le_of_not_ge hle)
  obtain ⟨⟨h00, h01, h02⟩, ⟨h10, h11, h12⟩, h20, h21, h22⟩ := h.cofactors
  obtain ⟨hrow0, hcol0⟩ := h.lengths 0
  obtain ⟨hrow1, hcol1⟩ := h.lengths 1
  obtain ⟨hrow2, hcol2⟩ := h.lengths 2
  fin_cases b <;> fin_cases j <;> first | exact absurd rfl hj | skip
  all_goals fin_cases k <;> first | exact absurd rfl hk | exact absurd hle (by decide) | skip
  all_goals
    simp [gram]
    grind

theorem sum_gram_sq {R : Matrix (Fin 3) (Fin 3) K} (h : IsRotation R) (b : Fin 4) :
    ∑ j, gram R b j ^ 2 = gram R b b * 4 := by
  calc ∑ j, gram R b j ^ 2 = ∑ j, gram R b b * gram R j j := by
        refine Finset.sum_congr rfl fun j _ => ?_
        rw [sq, gram_rank_one h]
    _ = gram R b b * 4 := by rw [← Finset.mul_sum, trace_gram]

/-- A row of the products that has length one is the quaternion. -/
theorem products_of_row {R : Matrix (Fin 3) (Fin 3) K} (h : IsRotation R) {b : Fin 4} {c : K}
    (hunit : ∑ j, (gram R b j * c) ^ 2 = 1) (j k : Fin 4) :
    4 * (gram R b j * c) * (gram R b k * c) = gram R j k := by
  -- The factor is fixed by the length of the row
  have hc : gram R b b * 4 * c ^ 2 = 1 := by
    rw [← hunit, ← sum_gram_sq h, Finset.sum_mul]
    exact Finset.sum_congr rfl fun j _ => (mul_pow _ _ _).symm
  have hrank := gram_rank_one h b j k
  linear_combination (4 * c ^ 2) * hrank + gram R j k * hc

end CommRing

/-! ## From matrices to quaternions -/

section Field

variable {K : Type*} [Field K]

/-- The quaternion that has a rotation's products is one of that rotation. -/
theorem matrix_of_gram [CharZero K] {R : Matrix (Fin 3) (Fin 3) K} {q : ℍ[K]}
    (h : ∀ j k, 4 * components q j * components q k = gram R j k) : matrix q = R := by
  have h11 := h 1 1
  have h22 := h 2 2
  have h33 := h 3 3
  have h01 := h 0 1
  have h02 := h 0 2
  have h03 := h 0 3
  have h12 := h 1 2
  have h13 := h 1 3
  have h23 := h 2 3
  simp [components, gram] at h11 h22 h33 h01 h02 h03 h12 h13 h23
  ext i j
  fin_cases i <;> fin_cases j <;> simp [matrix] <;> grind

/-- Two quaternions with the same products are the same, but for the sign. -/
theorem eq_or_eq_neg {p q : ℍ[K]} (hp : Quaternion.normSq p = 1)
    (h : ∀ j k, components p j * components p k = components q j * components q k) :
    p = q ∨ p = -q := by
  -- A component that is not zero settles the sign of all of them
  have hne : ∃ b, components p b ≠ 0 := by
    by_contra hall
    push Not at hall
    rw [← sum_components_sq] at hp
    simp [hall] at hp
  obtain ⟨b, hb⟩ := hne
  have hsq : components p b ^ 2 = components q b ^ 2 := by rw [sq, sq, h b b]
  rcases sq_eq_sq_iff_eq_or_eq_neg.mp hsq with hsame | hopp
  · left
    have hall : components p = components q := by
      funext j
      refine mul_left_cancel₀ hb ?_
      rw [h b j, hsame]
    rw [← ofComponents_components p, hall, ofComponents_components]
  · right
    have hall : components p = -components q := by
      funext j
      refine mul_left_cancel₀ hb ?_
      rw [h b j, hopp, Pi.neg_apply, neg_mul_neg]
    rw [← ofComponents_components p, hall]
    ext <;> simp [ofComponents, components]

end Field

end Rotation
