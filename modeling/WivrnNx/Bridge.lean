import WivrnNx.Ipc

/-!
# The bridge from the tracking half to the pipe

`Bridge` (helper/src/bridge.cpp): the latest config, poses, inputs and presence
flags, each with a generation that a consumer's cursor is compared with. Every
member function holds the mutex throughout, so each is one step.

- `setConfig`, `setPose`, `setInput`, `setPresent`, `onClientGone`: the producers;
- `collect`: the messages a cursor has not seen;
- `pushHaptic`, `popHaptic`: the queued channel back.
-/

namespace WivrnNx

open Ipc

/-- The bits of a float. The bridge copies floats and compares them bytewise. -/
abbrev FloatBits := UInt32
abbrev DoubleBits := UInt64

/-- `ipc::HmdConfig`. -/
structure HmdConfig where
  eyeWidth : UInt32
  eyeHeight : UInt32
  refreshHz : FloatBits
  ipdM : FloatBits := 0
  projLeft : FloatBits × FloatBits := (0, 0)
  projRight : FloatBits × FloatBits := (0, 0)
  projTop : FloatBits × FloatBits := (0, 0)
  projBottom : FloatBits × FloatBits := (0, 0)
  eyeToHeadQ : Fin 2 → Fin 4 → FloatBits := fun _ _ => 0
  eyeToHeadP : Fin 2 → Fin 3 → FloatBits := fun _ _ => 0
deriving DecidableEq

/-- `ipc::PoseUpdate`. -/
structure PoseUpdate where
  timeQpc : UInt64 := 0
  device : UInt8
  connected : UInt8 := 0
  qw : DoubleBits := 0
  qx : DoubleBits := 0
  qy : DoubleBits := 0
  qz : DoubleBits := 0
  px : DoubleBits := 0
  py : DoubleBits := 0
  pz : DoubleBits := 0
  vx : DoubleBits := 0
  vy : DoubleBits := 0
  vz : DoubleBits := 0
  wx : DoubleBits := 0
  wy : DoubleBits := 0
  wz : DoubleBits := 0
deriving DecidableEq, Repr

/-- `ipc::InputUpdate`. -/
structure InputUpdate where
  timeQpc : UInt64 := 0
  device : UInt8
  pressed : UInt32 := 0
  touched : UInt32 := 0
  trigger : FloatBits := 0
  grip : FloatBits := 0
  thumbstickX : FloatBits := 0
  thumbstickY : FloatBits := 0
deriving DecidableEq, Repr

/-- `Outgoing`: one message for the shim. -/
inductive Outgoing where
  | hmdConfig (config : HmdConfig)
  | deviceAdd (device : UInt8)
  | deviceRemove (device : UInt8)
  | poseUpdate (pose : PoseUpdate)
  | inputUpdate (input : InputUpdate)
deriving DecidableEq

/-- An index into the bridge's arrays: there are `kDeviceCount` devices. -/
abbrev Device := Fin 3

/-- `device_index`, and the bounds check that follows it everywhere. -/
def deviceIndex (device : UInt8) : Option Device :=
  if h : device.toNat < 3 then some ⟨device.toNat, h⟩ else none

/-- The `device` byte of an index. -/
def Device.byte (i : Device) : UInt8 := UInt8.ofNat i

/-- `Bridge`. -/
structure Bridge where
  config : HmdConfig
  configGen : ℕ := 1
  pose : Device → PoseUpdate
  poseGen : Device → ℕ := fun _ => 0
  input : Device → InputUpdate
  inputGen : Device → ℕ := fun _ => 0
  present : Device → Bool := fun _ => false
  presenceGen : Device → ℕ := fun _ => 0
  haptics : List Haptic := []
  posesReceived : ℕ := 0

namespace Bridge

/-- `kMaxHaptics`. -/
def maxHaptics : ℕ := 10

/-- The bits of `1.0`. -/
def one : DoubleBits := 0x3FF0000000000000

/-- The constructor. -/
def make (initialConfig : HmdConfig) : Bridge :=
  { config := initialConfig
    pose := fun i => { device := i.byte, connected := 0, qw := one }
    input := fun i => { device := i.byte } }

/-! ## The producers -/

def setConfig (b : Bridge) (config : HmdConfig) : Bridge :=
  if b.config = config then b
  else { b with config := config, configGen := b.configGen + 1 }

def setPose (b : Bridge) (pose : PoseUpdate) : Bridge :=
  match deviceIndex pose.device with
  | none => b
  | some i =>
    { b with pose := Function.update b.pose i pose
             poseGen := Function.update b.poseGen i (b.poseGen i + 1)
             posesReceived := b.posesReceived + 1 }

def setInput (b : Bridge) (input : InputUpdate) : Bridge :=
  match deviceIndex input.device with
  | none => b
  | some i =>
    { b with input := Function.update b.input i input
             inputGen := Function.update b.inputGen i (b.inputGen i + 1) }

def setPresent (b : Bridge) (device : UInt8) (present : Bool) : Bridge :=
  match deviceIndex device with
  | none => b
  | some i =>
    if b.present i = present then b
    else
      { b with present := Function.update b.present i present
               presenceGen := Function.update b.presenceGen i (b.presenceGen i + 1) }

/-- `on_client_gone`: every device is absent and every pose disconnected. -/
def onClientGone (b : Bridge) : Bridge :=
  { b with
    present := fun _ => false
    presenceGen := fun i => if b.present i then b.presenceGen i + 1 else b.presenceGen i
    pose := fun i => if (b.pose i).connected ≠ 0 then { b.pose i with connected := 0 } else b.pose i
    poseGen := fun i => if (b.pose i).connected ≠ 0 then b.poseGen i + 1 else b.poseGen i
    haptics := [] }

def pushHaptic (b : Bridge) (haptic : Haptic) : Bridge :=
  { b with
    haptics := (if maxHaptics ≤ b.haptics.length then b.haptics.tail else b.haptics) ++ [haptic] }

def popHaptic (b : Bridge) : Option (Haptic × Bridge) :=
  match b.haptics with
  | [] => none
  | haptic :: rest => some (haptic, { b with haptics := rest })

/-! ## The consumer -/

/-- `Bridge::Cursor`: what one consumer has already seen. -/
structure Cursor where
  config : ℕ := 0
  pose : Device → ℕ := fun _ => 0
  input : Device → ℕ := fun _ => 0
  presence : Device → ℕ := fun _ => 0

/-- The HMD is implicit in HmdConfig: only the controllers are announced. -/
def controllers : List Device := [1, 2]

/-- Every device, in the order of the loops. -/
def devices : List Device := [0, 1, 2]

def collectConfig (b : Bridge) (c : Cursor) : List Outgoing :=
  if c.config ≠ b.configGen then [.hmdConfig b.config] else []

def collectPresence (b : Bridge) (c : Cursor) (i : Device) : List Outgoing :=
  if c.presence i = b.presenceGen i then []
  else if b.present i then [.deviceAdd i.byte] else [.deviceRemove i.byte]

def collectPose (b : Bridge) (c : Cursor) (i : Device) : List Outgoing :=
  if c.pose i = b.poseGen i then [] else [.poseUpdate (b.pose i)]

def collectInput (b : Bridge) (c : Cursor) (i : Device) : List Outgoing :=
  if c.input i = b.inputGen i then [] else [.inputUpdate (b.input i)]

/-- `collect`: config, then presence, then poses, then inputs. -/
def collect (b : Bridge) (c : Cursor) : Cursor × List Outgoing :=
  ({ config := b.configGen, pose := b.poseGen, input := b.inputGen
     presence := fun i => if i ∈ controllers then b.presenceGen i else c.presence i },
    b.collectConfig c ++ controllers.flatMap (b.collectPresence c) ++
      devices.flatMap (b.collectPose c) ++ devices.flatMap (b.collectInput c))

/-! ## Devices -/

@[simp] theorem deviceIndex_byte (i : Device) : deviceIndex i.byte = some i := by
  fin_cases i <;> rfl

theorem deviceIndex_some {device : UInt8} {i : Device} (h : deviceIndex device = some i) :
    device = i.byte := by
  unfold deviceIndex at h
  split at h
  · cases h
    simp [Device.byte]
  · cases h

end Bridge

end WivrnNx
