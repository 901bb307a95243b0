import WivrnNx.Lib.Rotation

/-!
# Poses as matrices

`make_matrix34` and `decompose_matrix34` (shim/src/vr_util.h) in exact arithmetic: numbers come
from an ordered field, and one that is not finite is `none`, which is what a square root of a
negative number and a division by zero give. Quaternions are `w`, `x`, `y`, `z`.

- `decompose_eq`: whichever branch is taken, the quaternion is a row of products over its length;
- `round_trip`: on rotations the two functions are inverse, up to the quaternion's sign;
- `degenerate_iff`: which singular matrices become the identity.
-/

open scoped Numerals

namespace WivrnNx

open Rotation

/-! ## The two functions -/

section Functions

variable {K : Type*} [Field K]

/-- `HmdMatrix34_t`. -/
abbrev HmdMatrix34 (K : Type*) := Matrix (Fin 3) (Fin 4) K

/-- `make_matrix34`. -/
def makeMatrix34 (q : Fin 4 → K) (p : Fin 3 → K) : HmdMatrix34 K :=
  let w := q 0
  let x := q 1
  let y := q 2
  let z := q 3
  !![1 - 2 * (y * y + z * z), 2 * (x * y - w * z), 2 * (x * z + w * y), p 0;
    2 * (x * y + w * z), 1 - 2 * (x * x + z * z), 2 * (y * z - w * x), p 1;
    2 * (x * z - w * y), 2 * (y * z + w * x), 1 - 2 * (x * x + y * y), p 2]

variable [LinearOrder K]

/-- `a / s` of a divisor that need not be finite. -/
def divBy (a : K) (s : Option K) : Option K := s.bind fun s => if s = 0 then none else some (a / s)

/-- `isfinite` of all twelve entries: the matrix as one of numbers. -/
def allFinite (m : HmdMatrix34 (Option K)) : Option (HmdMatrix34 K) :=
  if h : ∀ i j, (m i j).isSome then some (.of fun i j => (m i j).get (h i j)) else none

/-- The branches of `decompose_matrix34`, up to the normalisation. `sqrt` is `std::sqrt`. -/
def rawQuaternion (sqrt : K → Option K) (m : HmdMatrix34 K) : Fin 4 → Option K :=
  let trace := m 0 0 + m 1 1 + m 2 2
  if 0 < trace then
    let s := (sqrt (trace + 1)).map (· * 2)
    ![s.map (1 / 4 * ·), divBy (m 2 1 - m 1 2) s, divBy (m 0 2 - m 2 0) s, divBy (m 1 0 - m 0 1) s]
  else if m 1 1 < m 0 0 ∧ m 2 2 < m 0 0 then
    let s := (sqrt (1 + m 0 0 - m 1 1 - m 2 2)).map (· * 2)
    ![divBy (m 2 1 - m 1 2) s, s.map (1 / 4 * ·), divBy (m 0 1 + m 1 0) s, divBy (m 0 2 + m 2 0) s]
  else if m 2 2 < m 1 1 then
    let s := (sqrt (1 + m 1 1 - m 0 0 - m 2 2)).map (· * 2)
    ![divBy (m 0 2 - m 2 0) s, divBy (m 0 1 + m 1 0) s, s.map (1 / 4 * ·), divBy (m 1 2 + m 2 1) s]
  else
    let s := (sqrt (1 + m 2 2 - m 0 0 - m 1 1)).map (· * 2)
    ![divBy (m 1 0 - m 0 1) s, divBy (m 0 2 + m 2 0) s, divBy (m 1 2 + m 2 1) s, s.map (1 / 4 * ·)]

/-- `norm`: not finite if any component is not. -/
def rawNorm (sqrt : K → Option K) (q : Fin 4 → Option K) : Option K := do
  let w ← q 0
  let x ← q 1
  let y ← q 2
  let z ← q 3
  sqrt (w * w + x * x + y * y + z * z)

/-- The quaternion and the position that are returned unless something better is found. -/
def identityQuaternion : Fin 4 → Option K := ![some 1, some 0, some 0, some 0]
def origin : Fin 3 → Option K := fun _ => some 0

/-- `decompose_matrix34`. -/
def decomposeMatrix34 (sqrt : K → Option K) (m : HmdMatrix34 (Option K)) :
    (Fin 4 → Option K) × (Fin 3 → Option K) :=
  match allFinite m with
  | none => (identityQuaternion, origin)
  | some m =>
    let q := rawQuaternion sqrt m
    let p := fun row => some (m row 3)
    match rawNorm sqrt q with
    | none => (identityQuaternion, p)
    | some norm =>
      if norm < 1 / 1000000 then (identityQuaternion, p)
      else (fun i => (q i).bind fun x => divBy x (some norm), p)

end Functions

/-! ## Rows of products -/

section Rows

variable {K : Type*} [Field K] [LinearOrder K] [IsStrictOrderedRing K]

/-- A square root in exact arithmetic. -/
structure ExactSqrt (sqrt : K → Option K) : Prop where
  of_nonneg : ∀ x, 0 ≤ x → ∃ y, sqrt x = some y ∧ 0 ≤ y ∧ y ^ 2 = x
  of_neg : ∀ x, x < 0 → sqrt x = none

/-- The rotation part. -/
def block (m : HmdMatrix34 K) : Matrix (Fin 3) (Fin 3) K := m.submatrix id Fin.castSucc

/-- The component that the branch taken divides by. -/
def branch (m : HmdMatrix34 K) : Fin 4 :=
  if 0 < m 0 0 + m 1 1 + m 2 2 then 0
  else if m 1 1 < m 0 0 ∧ m 2 2 < m 0 0 then 1
  else if m 2 2 < m 1 1 then 2
  else 3

/-- With a trace that is not positive, the largest of the diagonal outweighs the others. -/
theorem one_le_radicand {a b c : K} (htrace : a + b + c ≤ 0) (hb : b ≤ a) (hc : c ≤ a) :
    1 ≤ 1 + a - b - c := by
  rcases le_or_gt 0 a with h | h <;> linarith

/-- The branches are such that no square root is taken of less than one. -/
theorem one_le_gram_branch (m : HmdMatrix34 K) :
    1 ≤ gram (block m) (branch m) (branch m) := by
  unfold branch
  split
  · change 1 ≤ 1 + m 0 0 + m 1 1 + m 2 2
    linarith
  · rename_i htrace
    rw [not_lt] at htrace
    split
    · rename_i hmax
      exact one_le_radicand htrace hmax.1.le hmax.2.le
    · rename_i hmax
      rw [not_and_or, not_lt, not_lt] at hmax
      split
      · rename_i hlt
        have hle : m 0 0 ≤ m 1 1 := hmax.elim id fun h => h.trans hlt.le
        have hsum : m 1 1 + m 0 0 + m 2 2 ≤ 0 := by linarith
        exact one_le_radicand hsum hle hlt.le
      · rename_i hge
        rw [not_lt] at hge
        have hle : m 0 0 ≤ m 2 2 := hmax.elim (fun h => h.trans hge) id
        have hsum : m 2 2 + m 0 0 + m 1 1 ≤ 0 := by linarith
        exact one_le_radicand hsum hle hge

/-- Whichever branch is taken, the components are a row of products over twice the root. -/
theorem rawQuaternion_eq {sqrt : K → Option K} (hsqrt : ExactSqrt sqrt) (m : HmdMatrix34 K) :
    ∃ y, 0 < y ∧ y ^ 2 = gram (block m) (branch m) (branch m) ∧
      rawQuaternion sqrt m = fun j => some (gram (block m) (branch m) j / (2 * y)) := by
  have hone := one_le_gram_branch m
  obtain ⟨y, hy, hnonneg, hsq⟩ := hsqrt.of_nonneg _ (zero_le_one.trans hone)
  have hpos : 0 < y := by
    rcases hnonneg.eq_or_lt with rfl | hlt
    · norm_num at hsq
      linarith
    · exact hlt
  refine ⟨y, hpos, hsq, ?_⟩
  have hdiv : ∀ a : K, divBy a (some (y * 2)) = some (a / (2 * y)) := by
    intro a
    simp [divBy, hpos.ne', mul_comm y 2]
  -- The component itself is a quarter of the divisor
  have hquarter : some (1 / 4 * (y * 2)) =
      some (gram (block m) (branch m) (branch m) / (2 * y)) := by
    rw [← hsq]
    congr 1
    field_simp
    ring
  by_cases htrace : 0 < m 0 0 + m 1 1 + m 2 2
  -- The four branches differ in the row that they take, and in nothing else
  · have hbranch : branch m = 0 := if_pos htrace
    rw [hbranch] at hy hquarter ⊢
    have hroot : sqrt (m 0 0 + m 1 1 + m 2 2 + 1) = some y := by
      rw [← hy]
      congr 1
      change _ = 1 + m 0 0 + m 1 1 + m 2 2
      ring
    simp only [rawQuaternion, if_pos htrace, hroot]
    funext j
    fin_cases j
    · exact hquarter
    · exact hdiv (m 2 1 - m 1 2)
    · exact hdiv (m 0 2 - m 2 0)
    · exact hdiv (m 1 0 - m 0 1)
  by_cases hmax : m 1 1 < m 0 0 ∧ m 2 2 < m 0 0
  · have hbranch : branch m = 1 := by rw [branch, if_neg htrace, if_pos hmax]
    rw [hbranch] at hy hquarter ⊢
    have hroot : sqrt (1 + m 0 0 - m 1 1 - m 2 2) = some y := hy
    simp only [rawQuaternion, if_neg htrace, if_pos hmax, hroot]
    funext j
    fin_cases j
    · exact hdiv (m 2 1 - m 1 2)
    · exact hquarter
    · exact hdiv (m 0 1 + m 1 0)
    · exact hdiv (m 0 2 + m 2 0)
  by_cases hlt : m 2 2 < m 1 1
  · have hbranch : branch m = 2 := by rw [branch, if_neg htrace, if_neg hmax, if_pos hlt]
    rw [hbranch] at hy hquarter ⊢
    have hroot : sqrt (1 + m 1 1 - m 0 0 - m 2 2) = some y := hy
    simp only [rawQuaternion, if_neg htrace, if_neg hmax, if_pos hlt, hroot]
    funext j
    fin_cases j
    · exact hdiv (m 0 2 - m 2 0)
    · exact hdiv (m 0 1 + m 1 0)
    · exact hquarter
    · exact hdiv (m 1 2 + m 2 1)
  · have hbranch : branch m = 3 := by rw [branch, if_neg htrace, if_neg hmax, if_neg hlt]
    rw [hbranch] at hy hquarter ⊢
    have hroot : sqrt (1 + m 2 2 - m 0 0 - m 1 1) = some y := hy
    simp only [rawQuaternion, if_neg htrace, if_neg hmax, if_neg hlt, hroot]
    funext j
    fin_cases j
    · exact hdiv (m 1 0 - m 0 1)
    · exact hdiv (m 0 2 + m 2 0)
    · exact hdiv (m 1 2 + m 2 1)
    · exact hquarter

/-- The twelve entries are numbers. -/
def finite (m : HmdMatrix34 K) : HmdMatrix34 (Option K) := m.map some

omit [Field K] [LinearOrder K] [IsStrictOrderedRing K] in
theorem allFinite_finite (m : HmdMatrix34 K) : allFinite (finite m) = some m := by
  have hall : ∀ i j, (finite m i j).isSome = true := fun _ _ => rfl
  unfold allFinite
  rw [dif_pos hall]
  rfl

omit [Field K] [LinearOrder K] [IsStrictOrderedRing K] in
theorem allFinite_some {m : HmdMatrix34 (Option K)} {m' : HmdMatrix34 K}
    (h : allFinite m = some m') : m = finite m' := by
  unfold allFinite at h
  split at h
  · cases h
    ext1 i j
    simp [finite]
  · cases h

omit [LinearOrder K] [IsStrictOrderedRing K] in
/-- The norm of components that are all numbers. -/
theorem rawNorm_some (sqrt : K → Option K) (f : Fin 4 → K) :
    rawNorm sqrt (fun j => some (f j)) = sqrt (∑ j, f j ^ 2) := by
  have hsum : ∑ j, f j ^ 2 = f 0 * f 0 + f 1 * f 1 + f 2 * f 2 + f 3 * f 3 := by
    simp only [Fin.sum_univ_four, sq]
  rw [hsum]
  rfl

/-- A matrix of numbers gives a row of products, scaled to length one: the guards for a norm that
is not finite or too small are never met. -/
theorem decompose_eq {sqrt : K → Option K} (hsqrt : ExactSqrt sqrt) (m : HmdMatrix34 K) :
    ∃ c, 0 < c ∧ ∑ j, (gram (block m) (branch m) j * c) ^ 2 = 1 ∧
      decomposeMatrix34 sqrt (finite m) =
        (fun j => some (gram (block m) (branch m) j * c), fun row => some (m row 3)) := by
  obtain ⟨y, hy, hsq, hraw⟩ := rawQuaternion_eq hsqrt m
  have hone := one_le_gram_branch m
  obtain ⟨n, hn, hnonneg, hnsq⟩ := hsqrt.of_nonneg
    (∑ j, (gram (block m) (branch m) j / (2 * y)) ^ 2) (Finset.sum_nonneg fun j _ => sq_nonneg _)
  -- The component that was divided by alone makes the norm at least a half
  have hlarge : (1 / 2) ^ 2 ≤ n ^ 2 := by
    have hself : gram (block m) (branch m) (branch m) / (2 * y) = y / 2 := by
      rw [← hsq]
      field_simp
    have hsingle : (gram (block m) (branch m) (branch m) / (2 * y)) ^ 2 ≤
        ∑ j, (gram (block m) (branch m) j / (2 * y)) ^ 2 :=
      Finset.single_le_sum (f := fun j => (gram (block m) (branch m) j / (2 * y)) ^ 2)
        (fun j _ => sq_nonneg _) (Finset.mem_univ _)
    rw [hself] at hsingle
    rw [hnsq]
    rw [← hsq] at hone
    calc ((1 : K) / 2) ^ 2 ≤ (y / 2) ^ 2 := by
          rw [div_pow, div_pow, one_pow]
          linarith
      _ ≤ _ := hsingle
  have hhalf : 1 / 2 ≤ n := le_of_sq_le_sq hlarge hnonneg
  have hpos : 0 < n := one_half_pos.trans_le hhalf
  -- One factor for the divisor of the branch and for the norm
  refine ⟨1 / (2 * y * n), by positivity, ?_, ?_⟩
  · have hscale : ∀ j, (gram (block m) (branch m) j * (1 / (2 * y * n))) ^ 2 =
        (gram (block m) (branch m) j / (2 * y)) ^ 2 / n ^ 2 := by
      intro j
      field_simp
    simp only [hscale]
    rw [← Finset.sum_div, ← hnsq, div_self (pow_ne_zero 2 hpos.ne')]
  · have hguard : ¬ n < 1 / 1000000 := by
      rw [not_lt]
      exact le_trans (by norm_num) hhalf
    simp only [decomposeMatrix34, allFinite_finite, hraw, rawNorm_some, hn, if_neg hguard]
    refine Prod.ext ?_ rfl
    funext j
    simp only [Option.bind_some, divBy, if_neg hpos.ne']
    congr 1
    field_simp

end Rows

/-! ## Round trips -/

section RoundTrip

variable {K : Type*} [Field K]

/-- `(R|t)`. -/
def rigid (R : Matrix (Fin 3) (Fin 3) K) (t : Fin 3 → K) : HmdMatrix34 K :=
  .of fun i => Fin.snoc (R i) (t i)

omit [Field K] in
@[simp] theorem rigid_last (R : Matrix (Fin 3) (Fin 3) K) (t : Fin 3 → K) (i : Fin 3) :
    rigid R t i 3 = t i := rfl

omit [Field K] in
@[simp] theorem block_rigid (R : Matrix (Fin 3) (Fin 3) K) (t : Fin 3 → K) :
    block (rigid R t) = R := by
  ext i j
  fin_cases j <;> rfl

omit [Field K] in
theorem rigid_block (m : HmdMatrix34 K) : rigid (block m) (fun i => m i 3) = m := by
  ext i j
  fin_cases j <;> rfl

/-- The expansion is the one of the rotation, and the position is the last column. -/
theorem makeMatrix34_eq (q : Fin 4 → K) (p : Fin 3 → K) :
    makeMatrix34 q p = rigid (Rotation.matrix (ofComponents q)) p := by
  have hblock : block (makeMatrix34 q p) = Rotation.matrix (ofComponents q) := by
    ext i j
    fin_cases i <;> fin_cases j <;>
      simp [block, makeMatrix34, Rotation.matrix, ofComponents, sq]
  have hlast : (fun i => makeMatrix34 q p i 3) = p := by
    funext i
    fin_cases i <;> rfl
  calc makeMatrix34 q p
      = rigid (block (makeMatrix34 q p)) fun i => makeMatrix34 q p i 3 := (rigid_block _).symm
    _ = rigid (Rotation.matrix (ofComponents q)) p := by rw [hblock, hlast]

variable [LinearOrder K] [IsStrictOrderedRing K]

/-- The quaternion of a rotation, whichever branch it comes from, gives the rotation again. -/
theorem decompose_rigid {sqrt : K → Option K} (hsqrt : ExactSqrt sqrt)
    {R : Matrix (Fin 3) (Fin 3) K} (hR : IsRotation R) (t : Fin 3 → K) :
    ∃ q : Fin 4 → K, ∑ j, q j ^ 2 = 1 ∧ makeMatrix34 q t = rigid R t ∧
      decomposeMatrix34 sqrt (finite (rigid R t)) =
        (fun j => some (q j), fun i => some (t i)) := by
  obtain ⟨c, -, hunit, hdecompose⟩ := decompose_eq hsqrt (rigid R t)
  rw [block_rigid] at hunit hdecompose
  refine ⟨_, hunit, ?_, hdecompose⟩
  rw [makeMatrix34_eq, matrix_of_gram]
  rw [components_ofComponents]
  exact products_of_row hR hunit

omit [LinearOrder K] [IsStrictOrderedRing K] in
theorem normSq_ofComponents {q : Fin 4 → K} (h : ∑ j, q j ^ 2 = 1) :
    Quaternion.normSq (ofComponents q) = 1 := by
  rw [← sum_components_sq, components_ofComponents, h]

/-- Unit quaternions with the same matrix are the same, but for the sign. -/
theorem eq_or_eq_neg_of_makeMatrix34 {q q' : Fin 4 → K} {p : Fin 3 → K}
    (hq : ∑ j, q j ^ 2 = 1) (hq' : ∑ j, q' j ^ 2 = 1)
    (h : makeMatrix34 q' p = makeMatrix34 q p) : q' = q ∨ q' = -q := by
  have hmatrix : Rotation.matrix (ofComponents q') = Rotation.matrix (ofComponents q) := by
    rw [makeMatrix34_eq, makeMatrix34_eq] at h
    rw [← block_rigid (Rotation.matrix (ofComponents q')) p, h, block_rigid]
  have hsame : ∀ j k, components (ofComponents q') j * components (ofComponents q') k =
      components (ofComponents q) j * components (ofComponents q) k := by
    intro j k
    have hgram := gram_matrix (normSq_ofComponents hq') j k
    rw [hmatrix, gram_matrix (normSq_ofComponents hq)] at hgram
    linear_combination -hgram / 4
  rcases eq_or_eq_neg (normSq_ofComponents hq') hsame with h | h
  · left
    rw [← components_ofComponents q', h, components_ofComponents]
  · right
    rw [← components_ofComponents q', h, components_neg, components_ofComponents]

end RoundTrip

/-- `std::sqrt` on the reals. -/
noncomputable def realSqrt (x : ℝ) : Option ℝ := if 0 ≤ x then some (Real.sqrt x) else none

theorem realSqrt_exact : ExactSqrt realSqrt where
  of_nonneg := fun x hx => ⟨Real.sqrt x, if_pos hx, Real.sqrt_nonneg x, Real.sq_sqrt hx⟩
  of_neg := fun _ hx => if_neg hx.not_ge

/-- A rotation and a translation are rebuilt exactly, and a unit quaternion and a position are
found again, the quaternion up to its sign. -/
theorem round_trip (R : Matrix (Fin 3) (Fin 3) ℝ)
    (hR : R ∈ Matrix.specialOrthogonalGroup (Fin 3) ℝ) (t : Fin 3 → ℝ)
    (q : Fin 4 → ℝ) (hq : ∑ j, q j ^ 2 = 1) (p : Fin 3 → ℝ) :
    (∃ q' : Fin 4 → ℝ, ∑ j, q' j ^ 2 = 1 ∧ makeMatrix34 q' t = rigid R t ∧
      decomposeMatrix34 realSqrt (finite (rigid R t)) =
        (fun j => some (q' j), fun i => some (t i))) ∧
    ∃ q' : Fin 4 → ℝ, (q' = q ∨ q' = -q) ∧
      decomposeMatrix34 realSqrt (finite (makeMatrix34 q p)) =
        (fun j => some (q' j), fun i => some (p i)) := by
  constructor
  · exact decompose_rigid realSqrt_exact (.of_mem hR) t
  · obtain ⟨q', hunit, hmake, hdecompose⟩ :=
      decompose_rigid realSqrt_exact (matrix_isRotation (normSq_ofComponents hq)) p
    rw [← makeMatrix34_eq] at hmake hdecompose
    exact ⟨q', eq_or_eq_neg_of_makeMatrix34 hq hunit hmake, hdecompose⟩

theorem round_trip_one :
    (∃ q' : Fin 4 → ℝ, ∑ j, q' j ^ 2 = 1 ∧ makeMatrix34 q' 0 = rigid 1 0 ∧
      decomposeMatrix34 realSqrt (finite (rigid 1 0)) =
        (fun j => some (q' j), fun _ => some 0)) ∧
    ∃ q' : Fin 4 → ℝ, (q' = ![0, 0, 1, 0] ∨ q' = -![0, 0, 1, 0]) ∧
      decomposeMatrix34 realSqrt (finite (makeMatrix34 ![0, 0, 1, 0] 0)) =
        (fun j => some (q' j), fun _ => some 0) :=
  round_trip 1 (one_mem _) 0 ![0, 0, 1, 0] (by simp [Fin.sum_univ_four]) 0

/-! ## Matrices that are no rotation -/

section Degenerate

variable {K : Type*} [Field K] [LinearOrder K] [IsStrictOrderedRing K]

omit [IsStrictOrderedRing K] in
theorem branch_eq_zero_iff (m : HmdMatrix34 K) :
    branch m = 0 ↔ 0 < m 0 0 + m 1 1 + m 2 2 := by
  unfold branch
  constructor
  · intro h
    by_contra htrace
    rw [if_neg htrace] at h
    split at h
    · exact absurd h (by decide)
    · split at h <;> exact absurd h (by decide)
  · exact fun htrace => if_pos htrace

omit [LinearOrder K] [IsStrictOrderedRing K] in
/-- The products with `w` are the differences across the diagonal. -/
theorem gram_zero_iff (R : Matrix (Fin 3) (Fin 3) K) :
    (gram R 0 1 = 0 ∧ gram R 0 2 = 0 ∧ gram R 0 3 = 0) ↔ R.IsSymm := by
  have hsymm : R.IsSymm ↔ R 2 1 = R 1 2 ∧ R 0 2 = R 2 0 ∧ R 1 0 = R 0 1 := by
    constructor
    · intro h
      exact ⟨h.apply 1 2, h.apply 2 0, h.apply 0 1⟩
    · rintro ⟨h21, h02, h10⟩
      refine Matrix.IsSymm.ext fun i j => ?_
      fin_cases i <;> fin_cases j <;> first | rfl | assumption | (symm; assumption)
  rw [hsymm]
  change R 2 1 - R 1 2 = 0 ∧ R 0 2 - R 2 0 = 0 ∧ R 1 0 - R 0 1 = 0 ↔ _
  rw [sub_eq_zero, sub_eq_zero, sub_eq_zero]

omit [LinearOrder K] [IsStrictOrderedRing K] in
theorem identityQuaternion_of_ne {j : Fin 4} (h : j ≠ 0) :
    identityQuaternion j = some (0 : K) := by
  fin_cases j
  · exact absurd rfl h
  all_goals rfl

/-- The identity comes out of the first branch alone, and there of the symmetric matrices. -/
theorem decompose_identity_iff {sqrt : K → Option K} (hsqrt : ExactSqrt sqrt)
    (m : HmdMatrix34 K) :
    (decomposeMatrix34 sqrt (finite m)).1 = identityQuaternion ↔
      0 < m 0 0 + m 1 1 + m 2 2 ∧ (block m).IsSymm := by
  obtain ⟨c, hc, hunit, hdecompose⟩ := decompose_eq hsqrt m
  have hpos : 0 < gram (block m) (branch m) (branch m) * c :=
    mul_pos (one_pos.trans_le (one_le_gram_branch m)) hc
  rw [hdecompose, ← branch_eq_zero_iff, ← gram_zero_iff]
  constructor
  · intro h
    -- The component that was divided by is not zero, and that of the identity is the first
    have hzero : branch m = 0 := by
      by_contra hne
      have hb := congrFun h (branch m)
      rw [identityQuaternion_of_ne hne, Option.some_inj] at hb
      exact hpos.ne' hb
    rw [hzero] at h
    have hcomponent : ∀ j, j ≠ 0 → gram (block m) 0 j = 0 := by
      intro j hj
      have hprod : gram (block m) 0 j * c = 0 := by
        rw [← Option.some_inj, ← identityQuaternion_of_ne hj, ← h]
      exact (mul_eq_zero.mp hprod).resolve_right hc.ne'
    exact ⟨hzero, hcomponent 1 (by decide), hcomponent 2 (by decide), hcomponent 3 (by decide)⟩
  · rintro ⟨hzero, h1, h2, h3⟩
    rw [hzero] at hunit hpos ⊢
    rw [Fin.sum_univ_four, h1, h2, h3] at hunit
    -- The other three vanish, so that the first has length one by itself
    have hone : gram (block m) 0 0 * c = 1 := by
      have hsq : (gram (block m) 0 0 * c) ^ 2 = 1 := by linear_combination hunit
      exact (pow_eq_one_iff_of_nonneg hpos.le two_ne_zero).mp hsq
    funext j
    fin_cases j
    · exact congrArg some hone
    · simp [h1, identityQuaternion]
    · simp [h2, identityQuaternion]
    · simp [h3, identityQuaternion]

/-- Whatever the matrix, a quaternion of length one. -/
theorem decompose_unit {sqrt : K → Option K} (hsqrt : ExactSqrt sqrt)
    (m : HmdMatrix34 (Option K)) :
    ∃ q : Fin 4 → K, (decomposeMatrix34 sqrt m).1 = (fun j => some (q j)) ∧
      ∑ j, q j ^ 2 = 1 := by
  cases hall : allFinite m with
  | none =>
    refine ⟨![1, 0, 0, 0], ?_, by simp [Fin.sum_univ_four]⟩
    simp only [decomposeMatrix34, hall]
    funext j
    fin_cases j <;> rfl
  | some m' =>
    obtain ⟨c, -, hunit, hdecompose⟩ := decompose_eq hsqrt m'
    rw [allFinite_some hall, hdecompose]
    exact ⟨_, rfl, hunit⟩

end Degenerate

/-- What a matrix that is no rotation should give: the identity and the translation if it is
singular, and in any case a quaternion of length one. -/
def Degrades (m : HmdMatrix34 (Option ℝ)) : Prop :=
  (∀ m', m = finite m' → (block m').det = 0 →
    decomposeMatrix34 realSqrt m = (identityQuaternion, fun i => some (m' i 3))) ∧
  ∃ q : Fin 4 → ℝ, (decomposeMatrix34 realSqrt m).1 = (fun j => some (q j)) ∧ ∑ j, q j ^ 2 = 1

/-- Only the singular matrices that are symmetric and have a positive trace become the identity;
no singular matrix meets the guard for the norm. -/
theorem degenerate_iff (m : HmdMatrix34 (Option ℝ)) :
    Degrades m ↔ ∀ m', m = finite m' → (block m').det = 0 →
      0 < m' 0 0 + m' 1 1 + m' 2 2 ∧ (block m').IsSymm := by
  constructor
  · rintro ⟨hidentity, -⟩ m' rfl hdet
    rw [← decompose_identity_iff realSqrt_exact, hidentity m' rfl hdet]
  · intro h
    refine ⟨?_, decompose_unit realSqrt_exact m⟩
    rintro m' rfl hdet
    have hfirst := (decompose_identity_iff realSqrt_exact m').mpr (h m' rfl hdet)
    obtain ⟨c, -, -, hdecompose⟩ := decompose_eq realSqrt_exact m'
    rw [hdecompose] at hfirst ⊢
    exact Prod.ext hfirst rfl

/-- All zeros, the matrix of a compositor that submitted before it had a pose, is taken for half a
turn about the third axis. -/
theorem zero_half_turn :
    ¬ Degrades (finite 0) ∧
      (decomposeMatrix34 realSqrt (finite 0)).1 = ![some 0, some 0, some 0, some 1] := by
  have hbranch : branch (0 : HmdMatrix34 ℝ) = 3 := by simp [branch]
  have hgram : gram (block (0 : HmdMatrix34 ℝ)) 3 = ![0, 0, 0, 1] := by
    funext j
    fin_cases j <;> simp [gram, block]
  have hturn :
      (decomposeMatrix34 realSqrt (finite 0)).1 = ![some 0, some 0, some 0, some 1] := by
    obtain ⟨c, hc, hunit, hdecompose⟩ := decompose_eq realSqrt_exact (0 : HmdMatrix34 ℝ)
    rw [hbranch, hgram] at hunit hdecompose
    have hone : c = 1 := by
      simp [Fin.sum_univ_four] at hunit
      exact hunit.resolve_right (by linarith)
    rw [hdecompose, hone]
    funext j
    fin_cases j <;> simp
  refine ⟨?_, hturn⟩
  rintro ⟨hidentity, -⟩
  have hfirst := congrArg Prod.fst (hidentity 0 rfl (by simp [block]))
  rw [hturn] at hfirst
  have h0 := congrFun hfirst 0
  simp [identityQuaternion] at h0

end WivrnNx
