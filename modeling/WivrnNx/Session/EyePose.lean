import WivrnNx.Shim.PoseMatrix

/-!
# Eye poses

A frame carries the head's pose alone, and the pose of each eye that goes out with it is
`compose_pose(head, eye)` (video_out.h), where the eye's pose in the head comes from the headset's
views; the same views become the eye-to-head matrices that the driver hands to SteamVR
(hmd_device.cpp). Both are in exact arithmetic here.

- `composePose_orientation`, `composePose_position`: the two expansions are a product of
  quaternions and a rotated position;
- `composePose_rigid`: composing is the product of rigid motions, on points and as matrices;
- `viewPose_submitted`: from the matrix that SteamVR submits to the pose that is sent.
-/

open scoped Quaternion Matrix Numerals

namespace WivrnNx

open Rotation

/-- `XrVector3f`. -/
@[ext] structure XrVector3f (K : Type*) where
  x : K
  y : K
  z : K

/-- `XrQuaternionf`. -/
@[ext] structure XrQuaternionf (K : Type*) where
  x : K
  y : K
  z : K
  w : K

/-- `XrPosef`. -/
@[ext] structure XrPosef (K : Type*) where
  orientation : XrQuaternionf K
  position : XrVector3f K

section Compose

variable {K : Type*} [CommRing K]

/-- `compose_pose`. -/
def composePose (head eye : XrPosef K) : XrPosef K :=
  let a := head.orientation
  let b := eye.orientation
  let vx := eye.position.x
  let vy := eye.position.y
  let vz := eye.position.z
  let tx := 2 * (a.y * vz - a.z * vy)
  let ty := 2 * (a.z * vx - a.x * vz)
  let tz := 2 * (a.x * vy - a.y * vx)
  { orientation :=
      { w := a.w * b.w - a.x * b.x - a.y * b.y - a.z * b.z
        x := a.w * b.x + a.x * b.w + a.y * b.z - a.z * b.y
        y := a.w * b.y - a.x * b.z + a.y * b.w + a.z * b.x
        z := a.w * b.z + a.x * b.y - a.y * b.x + a.z * b.w }
    position :=
      { x := head.position.x + vx + a.w * tx + (a.y * tz - a.z * ty)
        y := head.position.y + vy + a.w * ty + (a.z * tx - a.x * tz)
        z := head.position.z + vz + a.w * tz + (a.x * ty - a.y * tx) } }

/-! ## Poses as rigid motions -/

/-- The coordinates of a point. -/
def XrVector3f.vec (v : XrVector3f K) : Fin 3 → K := ![v.x, v.y, v.z]

/-- The quaternion of an orientation. -/
def XrQuaternionf.quaternion (q : XrQuaternionf K) : ℍ[K] := ⟨q.w, q.x, q.y, q.z⟩

@[simp] theorem XrQuaternionf.quaternion_re (q : XrQuaternionf K) : q.quaternion.re = q.w := rfl
@[simp] theorem XrQuaternionf.quaternion_imI (q : XrQuaternionf K) : q.quaternion.imI = q.x := rfl
@[simp] theorem XrQuaternionf.quaternion_imJ (q : XrQuaternionf K) : q.quaternion.imJ = q.y := rfl
@[simp] theorem XrQuaternionf.quaternion_imK (q : XrQuaternionf K) : q.quaternion.imK = q.z := rfl

/-- A quaternion of length one. -/
def XrQuaternionf.Unit (q : XrQuaternionf K) : Prop := q.x ^ 2 + q.y ^ 2 + q.z ^ 2 + q.w ^ 2 = 1

/-- Where a pose takes a point: turned by the orientation, then moved by the position. -/
def XrPosef.apply (pose : XrPosef K) (p : Fin 3 → K) : Fin 3 → K :=
  let turned := pose.orientation.quaternion * ofVec p * star pose.orientation.quaternion
  ![turned.imI, turned.imJ, turned.imK] + pose.position.vec

omit [CommRing K] in
theorem XrVector3f.vec_injective : Function.Injective (XrVector3f.vec : XrVector3f K → _) := by
  intro u v h
  ext
  · exact congrFun h 0
  · exact congrFun h 1
  · exact congrFun h 2

theorem XrQuaternionf.quaternion_injective :
    Function.Injective (XrQuaternionf.quaternion : XrQuaternionf K → _) := by
  intro a b h
  injection h with hw hx hy hz
  ext <;> assumption

theorem XrQuaternionf.normSq_quaternion (q : XrQuaternionf K) :
    Quaternion.normSq q.quaternion = q.x ^ 2 + q.y ^ 2 + q.z ^ 2 + q.w ^ 2 := by
  rw [Quaternion.normSq_def', quaternion_re, quaternion_imI, quaternion_imJ, quaternion_imK]
  ring

theorem XrQuaternionf.Unit.normSq {q : XrQuaternionf K} (h : q.Unit) :
    Quaternion.normSq q.quaternion = 1 := by rw [q.normSq_quaternion, h]

/-- For a unit orientation the turn is the one by the matrix. -/
theorem XrPosef.apply_eq {pose : XrPosef K} (h : pose.orientation.Unit) (p : Fin 3 → K) :
    pose.apply p = matrix pose.orientation.quaternion *ᵥ p + pose.position.vec := by
  unfold XrPosef.apply
  have hturn := matrix_mulVec h.normSq p
  simp only [← hturn]
  congr 1
  funext i
  fin_cases i <;> rfl

/-- The orientations are multiplied. -/
theorem composePose_orientation (head eye : XrPosef K) :
    (composePose head eye).orientation.quaternion =
      head.orientation.quaternion * eye.orientation.quaternion := by
  ext <;> simp [composePose]

/-- The eye's position is turned by the head's matrix. -/
theorem composePose_position (head eye : XrPosef K) :
    (composePose head eye).position.vec =
      matrix head.orientation.quaternion *ᵥ eye.position.vec + head.position.vec := by
  funext i
  fin_cases i <;>
    simp [composePose, XrVector3f.vec, matrix] <;> ring

theorem composePose_unit {head eye : XrPosef K} (hhead : head.orientation.Unit)
    (heye : eye.orientation.Unit) : (composePose head eye).orientation.Unit := by
  rw [XrQuaternionf.Unit, ← XrQuaternionf.normSq_quaternion, composePose_orientation]
  exact normSq_mul_unit hhead.normSq heye.normSq

theorem composePose_apply {head eye : XrPosef K} (hhead : head.orientation.Unit)
    (heye : eye.orientation.Unit) (p : Fin 3 → K) :
    (composePose head eye).apply p = head.apply (eye.apply p) := by
  -- With the three orientations as matrices this is associativity
  rw [XrPosef.apply_eq (composePose_unit hhead heye), XrPosef.apply_eq hhead,
    XrPosef.apply_eq heye, composePose_orientation, composePose_position,
    matrix_mul hhead.normSq heye.normSq, Matrix.mulVec_add, Matrix.mulVec_mulVec, add_assoc]

theorem composePose_assoc {head eye : XrPosef K} (hhead : head.orientation.Unit)
    (heye : eye.orientation.Unit) (inner : XrPosef K) :
    composePose (composePose head eye) inner = composePose head (composePose eye inner) := by
  apply XrPosef.ext
  -- The orientations by the product of quaternions, the positions by the matrix of a product
  · apply XrQuaternionf.quaternion_injective
    simp only [composePose_orientation, mul_assoc]
  · apply XrVector3f.vec_injective
    simp only [composePose_position, composePose_orientation]
    rw [matrix_mul hhead.normSq heye.normSq, Matrix.mulVec_add, Matrix.mulVec_mulVec, add_assoc]

end Compose

/-! ## What is sent and what SteamVR is given -/

section Session

variable {K : Type*} [Field K]

/-- `eye_to_head` in `begin_video_frame`: the headset's view, or a nominal one until there is
any. -/
def eyeToHead (views : Option (Fin 2 → XrPosef K)) (eye : Fin 2) : XrPosef K :=
  match views with
  | some views => views eye
  | none => ⟨⟨0, 0, 0, 1⟩, ⟨if eye = 0 then -(315 / 10000) else 315 / 10000, 0, 0⟩⟩

/-- `head` in `begin_video_frame`. -/
def headPose (poseQ : Fin 4 → K) (poseP : Fin 3 → K) : XrPosef K :=
  ⟨⟨poseQ 1, poseQ 2, poseQ 3, poseQ 0⟩, ⟨poseP 0, poseP 1, poseP 2⟩⟩

/-- `view_info.pose[eye]`. -/
def viewPose (views : Option (Fin 2 → XrPosef K)) (poseQ : Fin 4 → K) (poseP : Fin 3 → K)
    (eye : Fin 2) : XrPosef K :=
  composePose (headPose poseQ poseP) (eyeToHead views eye)

/-- `eye_to_head_q[eye]` and `eye_to_head_p[eye]` as `publish_config` fills them. -/
def publishedEyeToHead (views : Option (Fin 2 → XrPosef K)) (eye : Fin 2) :
    (Fin 4 → K) × (Fin 3 → K) :=
  match views with
  | some views =>
    let q := (views eye).orientation
    let p := (views eye).position
    (![q.w, q.x, q.y, q.z], ![p.x, p.y, p.z])
  | none => (![1, 0, 0, 0], ![(if eye = 0 then -(1 / 2) else 1 / 2) * (63 / 1000), 0, 0])

/-- What `SetDisplayEyeToHead` is called with for an eye. -/
def displayEyeToHead (views : Option (Fin 2 → XrPosef K)) (eye : Fin 2) : HmdMatrix34 K :=
  makeMatrix34 (publishedEyeToHead views eye).1 (publishedEyeToHead views eye).2

/-- A pose as a matrix. -/
def XrPosef.matrix34 (pose : XrPosef K) : HmdMatrix34 K :=
  let q := pose.orientation
  makeMatrix34 ![q.w, q.x, q.y, q.z] pose.position.vec

/-- The four by four matrix, with its last row. -/
def homogeneous (m : HmdMatrix34 K) : Matrix (Fin 4) (Fin 4) K :=
  .of (Fin.snoc m ![0, 0, 0, 1])

section Homogeneous

variable (R : Matrix (Fin 3) (Fin 3) K) (t : Fin 3 → K)

theorem homogeneous_turn (i j : Fin 3) :
    homogeneous (rigid R t) i.castSucc j.castSucc = R i j := by
  fin_cases i <;> fin_cases j <;> rfl

theorem homogeneous_move (i : Fin 3) : homogeneous (rigid R t) i.castSucc (Fin.last 3) = t i := by
  fin_cases i <;> rfl

theorem homogeneous_last (j : Fin 3) :
    homogeneous (rigid R t) (Fin.last 3) j.castSucc = 0 := by
  fin_cases j <;> rfl

theorem homogeneous_corner : homogeneous (rigid R t) (Fin.last 3) (Fin.last 3) = 1 := rfl

end Homogeneous

/-- One rigid motion after the other. -/
theorem homogeneous_mul (R R' : Matrix (Fin 3) (Fin 3) K) (t t' : Fin 3 → K) :
    homogeneous (rigid R t) * homogeneous (rigid R' t') =
      homogeneous (rigid (R * R') (R *ᵥ t' + t)) := by
  ext i j
  -- Block by block, the last row and the last column apart
  rw [Matrix.mul_apply, Fin.sum_univ_castSucc]
  cases i using Fin.lastCases with
  | last =>
    simp only [homogeneous_last, homogeneous_corner, zero_mul, Finset.sum_const_zero, zero_add,
      one_mul]
    cases j using Fin.lastCases with
    | last => rw [homogeneous_corner, homogeneous_corner]
    | cast j => rw [homogeneous_last, homogeneous_last]
  | cast i =>
    cases j using Fin.lastCases with
    | last =>
      simp only [homogeneous_turn, homogeneous_move, homogeneous_corner, mul_one]
      rfl
    | cast j =>
      simp only [homogeneous_turn, homogeneous_last, mul_zero, add_zero]
      exact (Matrix.mul_apply).symm

theorem XrPosef.matrix34_eq (pose : XrPosef K) :
    pose.matrix34 = rigid (matrix pose.orientation.quaternion) pose.position.vec :=
  makeMatrix34_eq _ _

theorem headPose_matrix34 (poseQ : Fin 4 → K) (poseP : Fin 3 → K) :
    (headPose poseQ poseP).matrix34 = makeMatrix34 poseQ poseP := by
  rw [XrPosef.matrix34_eq, makeMatrix34_eq]
  congr 1
  funext i
  fin_cases i <;> rfl

theorem displayEyeToHead_eq [CharZero K] (views : Option (Fin 2 → XrPosef K)) (eye : Fin 2) :
    displayEyeToHead views eye = (eyeToHead views eye).matrix34 := by
  cases views with
  | some views => rfl
  | none =>
    -- Half the nominal distance of the eyes on one side, what it comes to on the other
    have hhalf : (if eye = 0 then -(1 / 2 : K) else 1 / 2) * (63 / 1000) =
        if eye = 0 then -(315 / 10000) else 315 / 10000 := by
      split
      · norm_num
      · norm_num
    unfold displayEyeToHead publishedEyeToHead
    simp only [hhalf]
    rfl

theorem composePose_matrix34 {head eye : XrPosef K} (hhead : head.orientation.Unit)
    (heye : eye.orientation.Unit) :
    homogeneous (composePose head eye).matrix34 =
      homogeneous head.matrix34 * homogeneous eye.matrix34 := by
  rw [XrPosef.matrix34_eq, XrPosef.matrix34_eq, XrPosef.matrix34_eq, homogeneous_mul,
    composePose_orientation, composePose_position, matrix_mul hhead.normSq heye.normSq]

/-- `pose` is the rigid motion `eye` followed by `head`, both on points and as a matrix. -/
structure RigidProduct (head eye pose : XrPosef K) : Prop where
  unit : pose.orientation.Unit
  apply : ∀ p, pose.apply p = head.apply (eye.apply p)
  matrix : homogeneous pose.matrix34 = homogeneous head.matrix34 * homogeneous eye.matrix34

/-- `compose_pose` is the product of rigid motions, and associative. The pose that is sent for an
eye is the one composed of the frame's head pose and the eye's pose in the head, which is also what
the matrices of that head pose and of the display describe. -/
theorem composePose_rigid [CharZero K] {head eye : XrPosef K} (hhead : head.orientation.Unit)
    (heye : eye.orientation.Unit) :
    RigidProduct head eye (composePose head eye) ∧
      (∀ inner, composePose (composePose head eye) inner =
        composePose head (composePose eye inner)) ∧
      ∀ views poseQ poseP i, headPose poseQ poseP = head → eyeToHead views i = eye →
        viewPose views poseQ poseP i = composePose head eye ∧
          makeMatrix34 poseQ poseP = head.matrix34 ∧ displayEyeToHead views i = eye.matrix34 := by
  refine ⟨⟨composePose_unit hhead heye, composePose_apply hhead heye,
    composePose_matrix34 hhead heye⟩, composePose_assoc hhead heye, ?_⟩
  rintro views poseQ poseP i rfl rfl
  exact ⟨rfl, (headPose_matrix34 poseQ poseP).symm, displayEyeToHead_eq views i⟩

/-- A head that looks up and an eye that is turned outwards: no axis is kept. -/
theorem composePose_rigid_canted :
    let head : XrPosef ℚ := ⟨⟨3 / 5, 0, 0, 4 / 5⟩, ⟨1, 2, 3⟩⟩
    let eye : XrPosef ℚ := ⟨⟨0, 5 / 13, 0, 12 / 13⟩, ⟨-(63 / 2000), 0, 0⟩⟩
    (composePose head eye).orientation = ⟨36 / 65, 4 / 13, 3 / 13, 48 / 65⟩ ∧
      RigidProduct head eye (composePose head eye) := by
  intro head eye
  have hhead : head.orientation.Unit := by norm_num [head, XrQuaternionf.Unit]
  have heye : eye.orientation.Unit := by norm_num [eye, XrQuaternionf.Unit]
  refine ⟨?_, (composePose_rigid hhead heye).1⟩
  norm_num [composePose, head, eye]

end Session

end WivrnNx
