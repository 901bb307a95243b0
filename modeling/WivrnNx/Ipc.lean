import WivrnNx.Flt

/-!
# The shim/helper contract

The messages of ipc/wivrnnx_ipc.h that carry video. A staging ring is named by
its `generation`, a slot of it by its index; `generation` counts ring creations
of one vrserver process and is taken as unbounded.
-/

namespace WivrnNx.Ipc

/-- An NT handle value, valid in the vrserver process. -/
abbrev Handle := ℕ

/-- shim → helper: the staging ring, sent whenever it is recreated and to every
new helper session. -/
structure StagingConfig where
  generation : ℕ
  /-- Full side-by-side width, twice the per-eye one. -/
  width : UInt32
  height : UInt32
  dxgiFormat : ℕ
  /-- Ring size, at most 3. -/
  count : ℕ
  handles : List Handle
deriving DecidableEq, Repr

/-- The HMD pose a frame was rendered with. -/
structure Pose where
  qw : Flt := .val 1
  qx : Flt := .val 0
  qy : Flt := .val 0
  qz : Flt := .val 0
  px : Flt := .val 0
  py : Flt := .val 0
  pz : Flt := .val 0
deriving DecidableEq, Repr

/-- shim → helper, one per flattened frame. -/
structure FrameReady where
  frameId : ℕ
  sampleTimeQpc : ℕ := 0
  generation : ℕ
  stagingIndex : ℕ
  pose : Pose := {}
  predictS : Flt := .val 0
deriving DecidableEq, Repr

/-- shim → helper. -/
structure Haptic where
  device : UInt8
  durationS : Flt := .val 0
  frequencyHz : Flt := .val 0
  amplitude : Flt := .val 0
deriving DecidableEq, Repr

/-- helper → shim: `flags` is 0 for encoded, 1 for dropped. -/
structure FrameDone where
  frameId : ℕ
  stagingIndex : ℕ
  flags : ℕ
deriving DecidableEq, Repr

/-- The shim's messages, without the KeepAlive. -/
inductive ToHelper where
  | shimHello
  | haptic (haptic : Haptic)
  | stagingConfig (config : StagingConfig)
  | frameReady (frame : FrameReady)
deriving DecidableEq, Repr

/-- The helper's messages that the video path depends on; `hmdConfig` stands for
the HelperHello and the HmdConfig that end the handshake. -/
inductive ToShim where
  | hmdConfig
  | frameDone (done : FrameDone)
deriving DecidableEq, Repr

end WivrnNx.Ipc
