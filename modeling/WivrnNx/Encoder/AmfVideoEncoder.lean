import WivrnNx.Encoder.AmfEncoder
import WivrnNx.Encoder.D3D11Stage

/-!
# Both eyes of a staging ring

`AmfVideoEncoder` (encoder/amf_video_encoder.cpp): one component per eye, the
geometry they are configured with, and `encode`, which cuts a staging texture in
two, submits both halves, releases the slot and only then waits for the outputs.
-/

namespace WivrnNx

open Ipc

/-- What the machine answers while an encoder is configured. -/
structure Machine where
  createDevice : Bool := true
  device1 : Bool := true
  openProcess : Bool := true
  slots : ℕ → SlotOpen
  contextInit : Bool := true
  /-- Which components the driver builds, per eye. -/
  createComponent : ℕ → VideoCodec → Bool := fun _ _ => true

/-- A machine on which every slot of `config` opens. -/
def Machine.good (config : StagingConfig) : Machine where
  slots _ := { desc := some ⟨config.width, config.height, config.dxgiFormat⟩ }

/-- `AmfVideoEncoder`. -/
structure AmfVideoEncoder where
  stage : D3D11Stage := {}
  /-- Whether `context_` is initialised. -/
  context : Bool := false
  left : AmfStreamEncoder := {}
  right : AmfStreamEncoder := {}
  info : EncoderStreamInfo := {}
  ready : Bool := false
  bitrateBps : ℕ := 0
  framesEncoded : ℕ := 0
  framesDropped : ℕ := 0
deriving DecidableEq, Repr

/-- What one eye meets during one `encode`. -/
structure EyeEnv where
  submit : SubmitEnv := {}
  polls : List Poll := [.output true]
deriving DecidableEq, Repr

/-- What one `encode` meets: the keyed mutex, and each eye's component. -/
structure EncodeEnv where
  sync : Bool := true
  left : EyeEnv := {}
  right : EyeEnv := {}
deriving DecidableEq, Repr

namespace AmfVideoEncoder

/-- `n & ~15u`. -/
def align16 (n : UInt32) : UInt32 := n &&& ~~~15

/-- The per-eye width and height that `configure` derives from the ring. -/
def eyeWidth (staging : StagingConfig) : UInt32 := align16 (staging.width / 2)
def eyeHeight (staging : StagingConfig) : UInt32 := align16 staging.height

def shutdown (e : AmfVideoEncoder) : AmfVideoEncoder :=
  { e with left := e.left.close, right := e.right.close, context := false,
           stage := e.stage.closeRing.destroyDevice, info := {}, ready := false,
           bitrateBps := 0 }

/-- The parameters both components are opened with. -/
def params (staging : StagingConfig) (config : EncoderConfig) : AmfEncodeParams :=
  { width := eyeWidth staging, height := eyeHeight staging, refreshHz := config.refreshHz,
    -- The bitrate is a budget for the link, so each eye gets half of it
    bitrateBps := config.bitrateBps / kStreamCount,
    surfaceFormat := amfSurfaceFormatForDxgi staging.dxgiFormat,
    allowH265 := config.allowH265, allowH264 := config.allowH264 }

/-- `configure`: rebuilt from scratch for every staging ring. -/
def configure (e : AmfVideoEncoder) (machine : Machine) (staging : StagingConfig)
    (config : EncoderConfig) : AmfVideoEncoder × Bool :=
  let e := e.shutdown
  if amfSurfaceFormatForDxgi staging.dxgiFormat = .unknown then (e, false)
  else if eyeWidth staging = 0 ∨ eyeHeight staging = 0 then (e, false)
  else if ¬ machine.createDevice then (e, false)
  else
    match { e.stage with device := true }.openRing staging machine.device1 machine.openProcess
        machine.slots with
    | (stage, false) => ({ e with stage := stage }, false)
    | (stage, true) =>
      if ¬ machine.contextInit then ({ e with stage := stage }, false)
      else
        let left := AmfStreamEncoder.openComponent (params staging config)
          (machine.createComponent 0)
        let right := AmfStreamEncoder.openComponent (params staging config)
          (machine.createComponent 1)
        let e := { e with stage := stage, context := true, left := left.1, right := right.1 }
        if ¬ left.2 ∨ ¬ right.2 then (e.shutdown, false)
        -- The fallback to H.264 is decided per component
        else if left.1.codec ≠ right.1.codec then (e.shutdown, false)
        else
          ({ e with info := ⟨eyeWidth staging, eyeHeight staging, left.1.codec⟩, ready := true,
                    bitrateBps := config.bitrateBps, framesEncoded := 0, framesDropped := 0 },
            true)

/-- `set_bitrate`, whole stream. -/
def setBitrate (e : AmfVideoEncoder) (bitrateBps : ℕ) : AmfVideoEncoder :=
  if ¬ e.ready ∨ bitrateBps = 0 ∨ bitrateBps = e.bitrateBps then e
  else
    { e with bitrateBps := bitrateBps
             left := e.left.setBitrate (bitrateBps / kStreamCount)
             right := e.right.setBitrate (bitrateBps / kStreamCount) }

/-- The source box that `encode` copies for eye `i`. -/
def sourceBox (info : EncoderStreamInfo) (i : UInt32) : D3D11Stage.Box :=
  D3D11Stage.copyRegion (i * info.width) info.width info.height

/-- The label `encode` puts on the output it got for eye `i` while it works on
`frame`. -/
def label (frame : FrameReady) (i : ℕ) (out : AmfOutput) : EncodedFrame :=
  { frameId := frame.frameId, sampleTimeQpc := frame.sampleTimeQpc, predictS := frame.predictS,
    pose := frame.pose, streamIndex := i, idr := out.idr, data := out.data }

/-- The second loop's body: an eye is only polled if its picture was accepted. -/
def retrieveEye (submitted : EncodeResult) (e : AmfStreamEncoder) (polls : List Poll) :
    AmfStreamEncoder × EncodeResult × Option AmfOutput :=
  match submitted with
  | .ok => e.retrieve polls
  | other => (e, other, none)

/-- One eye's share of a call. Both eyes are submitted before either is waited
for; the components do not see each other, so each share stands on its own. -/
def encodeEye (e : AmfStreamEncoder) (frame : FrameReady) (forceIdr : Bool) (env : EyeEnv) :
    AmfStreamEncoder × EncodeResult × Option AmfOutput :=
  let submitted := e.submit frame forceIdr env.submit
  retrieveEye submitted.2 submitted.1 env.polls

/-- What `encode` makes of the two eyes' results. -/
def finish (e : AmfVideoEncoder) (gotL gotR : AmfStreamEncoder × EncodeResult × Option AmfOutput) :
    AmfVideoEncoder × EncodeResult × Option (AmfOutput × AmfOutput) :=
  let e := { e with left := gotL.1, right := gotR.1 }
  if gotL.2.1 = .fatal ∨ gotR.2.1 = .fatal then (e, .fatal, none)
  else
    match gotL.2.2, gotR.2.2 with
    | some outL, some outR =>
      ({ e with framesEncoded := e.framesEncoded + 1 }, .ok, some (outL, outR))
    -- A frame with only one eye is worse than no frame
    | _, _ => ({ e with framesDropped := e.framesDropped + 1 }, .dropped, none)

/-- `encode`, with the outputs it took from the two components: both or none. -/
def encodeOutputs (e : AmfVideoEncoder) (frame : FrameReady) (forceIdr : Bool)
    (env : EncodeEnv) : AmfVideoEncoder × EncodeResult × Option (AmfOutput × AmfOutput) :=
  if ¬ e.ready then (e, .fatal, none)
  else if frame.generation ≠ e.stage.generation then (e, .dropped, none)
  else
    match e.stage.acquire frame.stagingIndex env.sync with
    | (stage, false) =>
      ({ e with stage := stage, framesDropped := e.framesDropped + 1 }, .dropped, none)
    | (stage, true) =>
      finish { e with stage := stage.release frame.stagingIndex }
        (encodeEye e.left frame forceIdr env.left) (encodeEye e.right frame forceIdr env.right)

/-- The frames that `encode` appends for the outputs it took. -/
def labelled (frame : FrameReady) : Option (AmfOutput × AmfOutput) → List EncodedFrame
  | none => []
  | some (outL, outR) => [label frame 0 outL, label frame 1 outR]

/-- `encode`: encodes both eyes of `frame`, in stream order, or neither. -/
def encode (e : AmfVideoEncoder) (frame : FrameReady) (forceIdr : Bool) (env : EncodeEnv) :
    AmfVideoEncoder × EncodeResult × List EncodedFrame :=
  let (e', result, outs) := e.encodeOutputs frame forceIdr env
  (e', result, labelled frame outs)

/-! ## The moments of one call

While `encode` holds the slot other threads go on, so a model of the whole path
takes it apart at the two operations on the keyed mutex.
-/

/-- Up to and with the `acquire`; a result ends the call there. -/
def encodeAcquire (e : AmfVideoEncoder) (frame : FrameReady) (sync : Bool) :
    AmfVideoEncoder × Option EncodeResult :=
  if ¬ e.ready then (e, some .fatal)
  else if frame.generation ≠ e.stage.generation then (e, some .dropped)
  else
    match e.stage.acquire frame.stagingIndex sync with
    | (stage, false) =>
      ({ e with stage := stage, framesDropped := e.framesDropped + 1 }, some .dropped)
    | (stage, true) => ({ e with stage := stage }, none)

/-- The `release`, once both copies are on their way. -/
def encodeRelease (e : AmfVideoEncoder) (frame : FrameReady) : AmfVideoEncoder :=
  { e with stage := e.stage.release frame.stagingIndex }

/-- What is left once the slot is back: the two eyes' outputs. -/
def encodeRest (e : AmfVideoEncoder) (frame : FrameReady) (forceIdr : Bool) (env : EncodeEnv) :
    AmfVideoEncoder × EncodeResult × Option (AmfOutput × AmfOutput) :=
  finish e (encodeEye e.left frame forceIdr env.left) (encodeEye e.right frame forceIdr env.right)

/-- The moments in a row are the call. -/
theorem encodeOutputs_eq (e : AmfVideoEncoder) (frame : FrameReady) (forceIdr : Bool)
    (env : EncodeEnv) :
    e.encodeOutputs frame forceIdr env =
      match e.encodeAcquire frame env.sync with
      | (e', some result) => (e', result, none)
      | (e', none) => (e'.encodeRelease frame).encodeRest frame forceIdr env := by
  unfold encodeOutputs encodeAcquire
  by_cases hready : e.ready = true
  · by_cases hgen : frame.generation = e.stage.generation
    · simp only [hready, hgen, not_true_eq_false, ne_eq, if_false]
      rcases e.stage.acquire frame.stagingIndex env.sync with ⟨stage, got⟩
      cases got with
      | false => rfl
      | true => rfl
    · simp [hready, hgen]
  · simp [hready]

/-! ## What one call does -/

/-- The outcome of a call that got as far as the components: both outputs, or a
result other than `ok` and none. -/
theorem finish_cases (e : AmfVideoEncoder)
    (gotL gotR : AmfStreamEncoder × EncodeResult × Option AmfOutput) :
    (e.finish gotL gotR).1.left = gotL.1 ∧ (e.finish gotL gotR).1.right = gotR.1 ∧
      ((∃ outL outR, gotL.2.2 = some outL ∧ gotR.2.2 = some outR ∧
          (e.finish gotL gotR).2 = (.ok, some (outL, outR))) ∨
        ((e.finish gotL gotR).2.1 ≠ .ok ∧ (e.finish gotL gotR).2.2 = none)) := by
  simp only [finish]
  split_ifs with hfatal
  · exact ⟨rfl, rfl, .inr ⟨by simp, rfl⟩⟩
  · cases hL : gotL.2.2 with
    | none => exact ⟨rfl, rfl, .inr ⟨by simp, rfl⟩⟩
    | some outL =>
      cases hR : gotR.2.2 with
      | none => exact ⟨rfl, rfl, .inr ⟨by simp, rfl⟩⟩
      | some outR => exact ⟨rfl, rfl, .inl ⟨outL, outR, rfl, rfl, rfl⟩⟩

/-- A call is refused with both components untouched, or both eyes do their
share. -/
theorem encodeOutputs_cases (e : AmfVideoEncoder) (frame : FrameReady) (forceIdr : Bool)
    (env : EncodeEnv) :
    ((e.encodeOutputs frame forceIdr env).1.left = e.left ∧
      (e.encodeOutputs frame forceIdr env).1.right = e.right ∧
      (e.encodeOutputs frame forceIdr env).2.1 ≠ .ok ∧
      (e.encodeOutputs frame forceIdr env).2.2 = none) ∨
    ∃ stage, e.encodeOutputs frame forceIdr env =
      finish { e with stage := stage } (encodeEye e.left frame forceIdr env.left)
        (encodeEye e.right frame forceIdr env.right) := by
  unfold encodeOutputs
  by_cases hready : e.ready = true
  · by_cases hgen : frame.generation = e.stage.generation
    · rw [if_neg (not_not.mpr hready), if_neg (not_not.mpr hgen)]
      split
      · exact .inl ⟨rfl, rfl, by simp, rfl⟩
      · exact .inr ⟨_, rfl⟩
    · exact .inl (by simp [hready, hgen])
  · exact .inl (by simp [hready])

end AmfVideoEncoder

end WivrnNx
