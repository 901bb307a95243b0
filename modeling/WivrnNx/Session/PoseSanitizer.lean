import WivrnNx.Bridge
import WivrnNx.Flt
import WivrnNx.Lib.HeldValue
import WivrnNx.Lib.Numerals

/-!
# The pose sanitizer

`PoseSanitizer` (wivrn/pose_sanitize.h), one for each device, and the loop of
`Session::on_tracking` that feeds them. What a sanitizer does to a component of the
pose is what `HeldValue.step` does to a value: `sanitize_orientation` and
`sanitize_position`.

The arithmetic on floats is a parameter, as is the bit pattern test `is_finite`, of which only
its result is used.
-/

open scoped Numerals

namespace WivrnNx

/-- `XrVector3f`. -/
structure Vector3 where
  x : Flt := .val 0
  y : Flt := .val 0
  z : Flt := .val 0
deriving DecidableEq, Repr

/-- `XrQuaternionf`. -/
structure Quaternion where
  x : Flt := .val 0
  y : Flt := .val 0
  z : Flt := .val 0
  w : Flt := .val 1
deriving DecidableEq, Repr

def Vector3.Finite (v : Vector3) : Prop := v.x.Finite ∧ v.y.Finite ∧ v.z.Finite

def Quaternion.Finite (q : Quaternion) : Prop :=
  q.x.Finite ∧ q.y.Finite ∧ q.z.Finite ∧ q.w.Finite

/-- What the floating point unit does, and the test on bit patterns. -/
structure FloatMath where
  add : Flt → Flt → Flt
  mul : Flt → Flt → Flt
  div : Flt → Flt → Flt
  sqrt : Flt → Flt
  isFinite : Flt → Bool
  isFinite_iff : ∀ f, isFinite f = true ↔ f.Finite

/-- One `from_headset::tracking::pose`, without its device; the flags are the bits of
`pose_flags`. -/
structure DevicePose where
  orientation : Quaternion := {}
  position : Vector3 := {}
  linearVelocity : Vector3 := {}
  angularVelocity : Vector3 := {}
  orientationValid : Bool := false
  positionValid : Bool := false
  linearVelocityValid : Bool := false
  angularVelocityValid : Bool := false
  orientationTracked : Bool := false
  positionTracked : Bool := false
deriving DecidableEq, Repr

section Checks

variable (m : FloatMath)

/-- `is_finite_vec`. -/
def isFiniteVec (v : Vector3) : Bool := m.isFinite v.x && m.isFinite v.y && m.isFinite v.z

/-- `norm2`, as both of its users compute it. -/
def norm2 (q : Quaternion) : Flt :=
  m.add (m.add (m.add (m.mul q.x q.x) (m.mul q.y q.y)) (m.mul q.z q.z)) (m.mul q.w q.w)

/-- `0.1f`. -/
def tenth : Flt := .val (13421773 / 134217728)

/-- `is_valid_orientation`. -/
def isValidOrientation (q : Quaternion) : Bool :=
  if !(m.isFinite q.x && m.isFinite q.y && m.isFinite q.z && m.isFinite q.w) then false
  else m.isFinite (norm2 m q) && Flt.lt tenth (norm2 m q) && Flt.lt (norm2 m q) (.val 10)

/-- `normalize_orientation`. -/
def normalizeOrientation (q : Quaternion) : Quaternion :=
  let inv := m.div (.val 1) (m.sqrt (norm2 m q))
  { x := m.mul q.x inv, y := m.mul q.y inv, z := m.mul q.z inv, w := m.mul q.w inv }

/-- `is_sane`. -/
def isSane (pose : DevicePose) : Bool :=
  if pose.orientationValid && !isValidOrientation m pose.orientation then false
  else if pose.positionValid && !isFiniteVec m pose.position then false
  else if pose.linearVelocityValid && !isFiniteVec m pose.linearVelocity then false
  else if pose.angularVelocityValid && !isFiniteVec m pose.angularVelocity then false
  else true

end Checks

/-! ## The sanitizer -/

/-- `TrackedState`. -/
structure TrackedState where
  everTracked : Bool := false
  currentlyTracked : Bool := false
  productionTimestamp : ℤ := -2 ^ 63
deriving DecidableEq, Repr

/-- `update_tracked_state`: the state afterwards, and whether the sample is taken. -/
def updateTrackedState (state : TrackedState) (productionTimestamp : ℤ)
    (valid tracked freeze : Bool) : TrackedState × Bool :=
  if !valid then (state, true)
  else
    let upToDate := decide (state.productionTimestamp ≤ productionTimestamp)
    if tracked then
      let state := { state with everTracked := true }
      (if upToDate then
        { state with currentlyTracked := true, productionTimestamp := productionTimestamp }
      else state, true)
    else
      (if upToDate then
        { state with currentlyTracked := false, productionTimestamp := productionTimestamp }
      else state, !freeze || !state.everTracked)

/-- `PoseSanitizer`. -/
structure PoseSanitizer where
  positionState : TrackedState := {}
  orientationState : TrackedState := {}
  lastOrientation : Quaternion := {}
  lastPosition : Vector3 := {}
  haveOrientation : Bool := false
  havePosition : Bool := false
  rejected : ℕ := 0
  frozen : ℕ := 0
deriving DecidableEq, Repr

namespace PoseSanitizer

/-- `PoseSanitizer::Result`. -/
structure Result where
  orientation : Quaternion := {}
  position : Vector3 := {}
  linearVelocity : Vector3 := {}
  angularVelocity : Vector3 := {}
  usable : Bool := false
  clean : Bool := false
deriving DecidableEq, Repr

variable (m : FloatMath)

/-- `PoseSanitizer::sanitize`. -/
def sanitize (s : PoseSanitizer) (pose : DevicePose) (productionTimestamp : ℤ) (freeze : Bool) :
    PoseSanitizer × Result :=
  if !isSane m pose then
    ({ s with rejected := s.rejected + 1 },
      { orientation := s.lastOrientation
        position := s.lastPosition
        usable := s.haveOrientation && s.havePosition
        clean := false })
  else
    let orientation := updateTrackedState s.orientationState productionTimestamp
      pose.orientationValid pose.orientationTracked freeze
    let position := updateTrackedState s.positionState productionTimestamp
      pose.positionValid pose.positionTracked freeze
    let takeOrientation := orientation.2
    let takePosition := position.2
    let frozenAny := (pose.orientationValid && !takeOrientation) ||
      (pose.positionValid && !takePosition)
    let moving := !frozenAny && takeOrientation && takePosition
    let s' : PoseSanitizer :=
      { s with
        orientationState := orientation.1
        positionState := position.1
        lastOrientation :=
          if pose.orientationValid && takeOrientation then normalizeOrientation m pose.orientation
          else s.lastOrientation
        haveOrientation := pose.orientationValid && takeOrientation || s.haveOrientation
        lastPosition :=
          if pose.positionValid && takePosition then pose.position else s.lastPosition
        havePosition := pose.positionValid && takePosition || s.havePosition
        frozen := if frozenAny then s.frozen + 1 else s.frozen }
    (s',
      { orientation := s'.lastOrientation
        position := s'.lastPosition
        usable := s'.haveOrientation && s'.havePosition
        linearVelocity := if moving && pose.linearVelocityValid then pose.linearVelocity else {}
        angularVelocity := if moving && pose.angularVelocityValid then pose.angularVelocity else {}
        clean := !frozenAny && pose.orientationValid && pose.positionValid })

end PoseSanitizer

/-- One call of `sanitize`. -/
structure PoseSample where
  pose : DevicePose
  productionTimestamp : ℤ
  freeze : Bool
deriving DecidableEq, Repr

namespace PoseSanitizer

variable (m : FloatMath)

/-- The sanitizer after a list of samples, oldest first. -/
def afterFrom (s : PoseSanitizer) (samples : List PoseSample) : PoseSanitizer :=
  samples.foldl (fun s x => (s.sanitize m x.pose x.productionTimestamp x.freeze).1) s

/-- The results for a list of samples. -/
def results : PoseSanitizer → List PoseSample → List Result
  | _, [] => []
  | s, x :: rest =>
    let r := s.sanitize m x.pose x.productionTimestamp x.freeze
    r.2 :: results r.1 rest

/-- A new sanitizer after a list of samples. -/
def after (samples : List PoseSample) : PoseSanitizer := afterFrom m {} samples

/-- What `sanitize` returns for a sample that comes behind others. -/
def resultAfter (before : List PoseSample) (x : PoseSample) : Result :=
  ((after m before).sanitize m x.pose x.productionTimestamp x.freeze).2

/-! ## The two components -/

/-- What a sample says about the orientation. -/
def orientationReading (pose : DevicePose) : Reading Quaternion :=
  if !isSane m pose || !pose.orientationValid then .missing
  else if pose.orientationTracked then .tracked (normalizeOrientation m pose.orientation)
  else .loose (normalizeOrientation m pose.orientation)

/-- What a sample says about the position. -/
def positionReading (pose : DevicePose) : Reading Vector3 :=
  if !isSane m pose || !pose.positionValid then .missing
  else if pose.positionTracked then .tracked pose.position
  else .loose pose.position

/-- The orientation that a sanitizer holds. -/
def heldOrientation (s : PoseSanitizer) : HeldValue Quaternion :=
  { value := s.lastOrientation, seen := s.haveOrientation
    everTracked := s.orientationState.everTracked }

/-- The position that a sanitizer holds. -/
def heldPosition (s : PoseSanitizer) : HeldValue Vector3 :=
  { value := s.lastPosition, seen := s.havePosition, everTracked := s.positionState.everTracked }

/-- `update_tracked_state`, without the timestamps: they do not decide anything. -/
theorem updateTrackedState_spec (state : TrackedState) (timestamp : ℤ)
    (valid tracked freeze : Bool) :
    (updateTrackedState state timestamp valid tracked freeze).1.everTracked =
        (state.everTracked || (valid && tracked)) ∧
      (updateTrackedState state timestamp valid tracked freeze).2 =
        (!valid || tracked || !(freeze && state.everTracked)) := by
  unfold updateTrackedState
  cases valid with
  | false => exact ⟨(Bool.or_false _).symm, rfl⟩
  | true =>
    cases tracked with
    | true =>
      dsimp only
      constructor
      · show (if decide (state.productionTimestamp ≤ timestamp) = true then _ else _ :
          TrackedState).everTracked = _
        split <;> exact (Bool.or_true _).symm
      · rfl
    | false =>
      dsimp only
      constructor
      · show (if decide (state.productionTimestamp ≤ timestamp) = true then _ else _ :
          TrackedState).everTracked = _
        split <;> exact (Bool.or_false _).symm
      · show (!freeze || !state.everTracked) = _
        rw [← Bool.not_and]
        rfl

/-- What `sanitize` does to one component, with what `update_tracked_state` says. -/
theorem step_of_updateTrackedState {α : Type} (last value : α) (have_ : Bool)
    (state : TrackedState) (timestamp : ℤ) (valid tracked freeze : Bool) :
    ({ value :=
        if valid && (updateTrackedState state timestamp valid tracked freeze).2 then value else last
       seen := valid && (updateTrackedState state timestamp valid tracked freeze).2 || have_
       everTracked := (updateTrackedState state timestamp valid tracked freeze).1.everTracked } :
      HeldValue α) =
      HeldValue.step { value := last, seen := have_, everTracked := state.everTracked } freeze
        (if !valid then .missing else if tracked then .tracked value else .loose value) := by
  have hspec := updateTrackedState_spec state timestamp valid tracked freeze
  rw [hspec.1, hspec.2]
  cases valid with
  | false => simp [HeldValue.step]
  | true =>
    cases tracked with
    | true => simp [HeldValue.step]
    | false =>
      cases hheld : (freeze && state.everTracked) with
      | true => simp [HeldValue.step, hheld]
      | false => simp [HeldValue.step, hheld]

section Components

variable {m}

/-- A sanitizer holds its orientation as a value is held. -/
theorem sanitize_orientation (s : PoseSanitizer) (x : PoseSample) :
    (s.sanitize m x.pose x.productionTimestamp x.freeze).1.heldOrientation =
      s.heldOrientation.step x.freeze (orientationReading m x.pose) := by
  unfold sanitize orientationReading heldOrientation
  cases isSane m x.pose with
  | false => rfl
  | true => exact step_of_updateTrackedState ..

/-- A sanitizer holds its position as a value is held. -/
theorem sanitize_position (s : PoseSanitizer) (x : PoseSample) :
    (s.sanitize m x.pose x.productionTimestamp x.freeze).1.heldPosition =
      s.heldPosition.step x.freeze (positionReading m x.pose) := by
  unfold sanitize positionReading heldPosition
  cases isSane m x.pose with
  | false => rfl
  | true => exact step_of_updateTrackedState ..

end Components

end PoseSanitizer

/-! ## The session -/

/-- A `wivrn::device_id` with a pose: those the shim has a device for, and the others. -/
inductive TrackingDevice
  | head
  | leftGrip
  | rightGrip
  | other (code : ℕ)
deriving DecidableEq, Repr

/-- `ipc_device_for`. -/
def ipcDeviceFor : TrackingDevice → Option Device
  | .head => some 0
  | .leftGrip => some 1
  | .rightGrip => some 2
  | .other _ => none

/-- `from_headset::tracking`, without the views. -/
structure Tracking where
  productionTimestamp : ℤ
  devicePoses : List (TrackingDevice × DevicePose)

/-- The loop over `device_poses`: the sanitizers afterwards, and what is published. -/
def onPoses (m : FloatMath) : (Device → PoseSanitizer) → List (TrackingDevice × PoseSample) →
    (Device → PoseSanitizer) × List (Device × PoseSanitizer.Result)
  | s, [] => (s, [])
  | s, (id, x) :: rest =>
    match ipcDeviceFor id with
    | none => onPoses m s rest
    | some i =>
      let r := (s i).sanitize m x.pose x.productionTimestamp x.freeze
      let more := onPoses m (Function.update s i r.1) rest
      (more.1, (i, r.2) :: more.2)

/-- The poses of a packet, each with what `sanitize` gets besides. -/
def Tracking.samples (tracking : Tracking) (standbyFreeze : Bool) :
    List (TrackingDevice × PoseSample) :=
  tracking.devicePoses.map fun p =>
    (p.1,
      { pose := p.2, productionTimestamp := tracking.productionTimestamp, freeze := standbyFreeze })

/-- `Session::on_tracking`. -/
def onTracking (m : FloatMath) (s : Device → PoseSanitizer) (tracking : Tracking)
    (standbyFreeze : Bool) : (Device → PoseSanitizer) × List (Device × PoseSanitizer.Result) :=
  onPoses m s (tracking.samples standbyFreeze)

/-- A sequence of tracking packets, each with the setting it finds. -/
def onTrackings (m : FloatMath) : (Device → PoseSanitizer) → List (Tracking × Bool) →
    (Device → PoseSanitizer) × List (Device × PoseSanitizer.Result)
  | s, [] => (s, [])
  | s, p :: rest =>
    let r := onTracking m s p.1 p.2
    let more := onTrackings m r.1 rest
    (more.1, r.2 ++ more.2)

/-- The samples of one device. -/
def samplesOf (i : Device) (poses : List (TrackingDevice × PoseSample)) : List PoseSample :=
  poses.filterMap fun p => if ipcDeviceFor p.1 = some i then some p.2 else none

end WivrnNx
