import WivrnNx.Encoder.AmfVideoEncoder
import WivrnNx.VideoBridge

/-!
# Frame intake

`VideoIntake` (helper/src/video_intake.cpp): the StagingConfig/FrameReady/FrameDone
half of the helper. The pipe loop's functions hold the mutex throughout, so each
is one step. The encoder thread lets go of it while it encodes; `EncoderThread`
says where it is, and each of its steps is what it does at once between two looks
at something it shares.

- `onStagingConfig`, `onFrameReady`, `onShimGone`, `popDone`: the pipe loop;
- `EncoderAction`, `encoderStep`: `run`, `encode_one` and `ensure_encoder`.
-/

namespace WivrnNx

open Ipc

/-- A staging texture: the ring it was created for, and its slot. -/
structure TextureId where
  generation : ℕ
  index : ℕ
deriving DecidableEq, Repr

/-- What a shared handle names. -/
structure SharedTexture where
  id : TextureId
  desc : TextureDesc
deriving DecidableEq, Repr

/-- Where the encoder thread is. -/
inductive EncoderThread where
  /-- In `cv_.wait`. -/
  | waiting
  /-- The staging changed: the lock is released for the encoder's shutdown. -/
  | tearing
  /-- `encode_one` was entered. -/
  | taken (frame : FrameReady)
  /-- It copied `staging_`. -/
  | staged (frame : FrameReady) (config : StagingConfig)
  /-- `configure` is opening the ring; `found` is what the handles named so far. -/
  | opening (frame : FrameReady) (config : StagingConfig) (request : VideoRequest)
      (found : List (Option SharedTexture))
  /-- The encoder is ready and about to `encode`. -/
  | encoding (frame : FrameReady) (request : VideoRequest)
  /-- `encode` acquired the slot. -/
  | holding (frame : FrameReady) (forceIdr : Bool) (request : VideoRequest)
  /-- `encode` released it. -/
  | released (frame : FrameReady) (forceIdr : Bool) (request : VideoRequest)
  /-- All that is left is the answer. -/
  | answering (frame : FrameReady) (encoded : Bool)
deriving DecidableEq, Repr

/-- The frame that `encode_one` was called with. -/
def EncoderThread.frame? : EncoderThread → Option FrameReady
  | .waiting | .tearing => none
  | .taken frame | .staged frame _ | .opening frame _ _ _ | .encoding frame _
  | .holding frame _ _ | .released frame _ _ | .answering frame _ => some frame

/-- `VideoIntake`, with the encoder it owns. -/
structure VideoIntake where
  /-- `encoder_ != nullptr`. -/
  hasEncoder : Bool := true
  staging : Option StagingConfig := none
  stagingChanged : Bool := false
  pending : Option FrameReady := none
  done : List FrameDone := []
  framesSeen : ℕ := 0
  framesEncoded : ℕ := 0
  framesDropped : ℕ := 0
  thread : EncoderThread := .waiting
  encoderReady : Bool := false
  encoderGeneration : ℕ := 0
  encoderConfigGeneration : ℕ := 0
  idrSeen : ℕ := 0
  bitrateSeen : ℕ := 0
  encoder : AmfVideoEncoder := {}
  /-- The texture behind each slot the stage has open. -/
  textures : List TextureId := []
deriving DecidableEq, Repr

namespace VideoIntake

def doneEncoded : ℕ := 0
def doneDropped : ℕ := 1

/-- `kMaxDone`. -/
def maxDone : ℕ := 8

/-! ## The pipe loop -/

/-- `push_done`. -/
def pushDone (i : VideoIntake) (frame : FrameReady) (flags : ℕ) : VideoIntake :=
  { i with done := (if maxDone ≤ i.done.length then i.done.tail else i.done) ++
      [{ frameId := frame.frameId, stagingIndex := frame.stagingIndex, flags := flags }] }

/-- A frame for the ring that has just been replaced is answered. -/
def dropOther (i : VideoIntake) (config : StagingConfig) : VideoIntake :=
  match i.pending with
  | none => i
  | some frame =>
    if frame.generation ≠ config.generation then
      { i.pushDone frame doneDropped with pending := none }
    else i

def onStagingConfig (i : VideoIntake) (config : StagingConfig) : VideoIntake :=
  { i.dropOther config with staging := some config, stagingChanged := true }

/-- The frame names a slot of the ring that was announced last. -/
def names (i : VideoIntake) (frame : FrameReady) : Bool :=
  match i.staging with
  | none => false
  | some config => frame.generation = config.generation ∧ frame.stagingIndex < config.count

/-- Answered at once, without a thread wakeup. -/
def refuse (i : VideoIntake) (frame : FrameReady) : VideoIntake :=
  { i.pushDone frame doneDropped with framesDropped := i.framesDropped + 1 }

/-- The frame that waited is answered: there is room for one. -/
def supersede (i : VideoIntake) : VideoIntake :=
  match i.pending with
  | none => i
  | some old => i.refuse old

/-- A frame with somewhere to go: it waits in place of the one before. -/
def accept (i : VideoIntake) (frame : FrameReady) : VideoIntake :=
  { i.supersede with pending := some frame }

/-- `on_frame_ready`; `active` is the bridge's request. -/
def onFrameReady (i : VideoIntake) (active : Bool) (frame : FrameReady) : VideoIntake :=
  let i := { i with framesSeen := i.framesSeen + 1 }
  if ¬ i.names frame then i.refuse frame
  else if ¬ i.hasEncoder ∨ ¬ active then i.refuse frame
  else i.accept frame

def onShimGone (i : VideoIntake) : VideoIntake :=
  { i with staging := none, stagingChanged := true, pending := none, done := [] }

def popDone (i : VideoIntake) : Option (FrameDone × VideoIntake) :=
  match i.done with
  | [] => none
  | d :: rest => some (d, { i with done := rest })

/-! ## The encoder thread -/

/-- What `run` does before it lets go of the lock for good. -/
def takePending (i : VideoIntake) : VideoIntake :=
  match i.pending with
  | none => { i with thread := .waiting }
  | some frame => { i with pending := none, thread := .taken frame }

/-- The shutdown of whatever the encoder has open. -/
def shutdownEncoder (i : VideoIntake) : VideoIntake :=
  { i with encoder := i.encoder.shutdown, textures := [], encoderReady := false }

/-- `ensure_encoder` has nothing to do. -/
def upToDate (i : VideoIntake) (config : StagingConfig) (request : VideoRequest) : Bool :=
  i.encoderReady ∧ i.encoderGeneration = config.generation ∧
    i.encoderConfigGeneration = request.configGeneration

/-- The encoder's configuration for a request. -/
def encoderConfig (request : VideoRequest) : EncoderConfig :=
  { refreshHz := request.refreshHz, bitrateBps := request.bitrateBps,
    allowH265 := request.allowH265, allowH264 := request.allowH264 }

/-- The machine as far as the textures go: a slot opens as what its handle named
when it was duplicated, unless Windows refuses. -/
def openedMachine (machine : Machine) (found : List (Option SharedTexture)) : Machine :=
  { machine with slots := fun i =>
      match (found[i]?).join with
      | none => { duplicated := false, desc := none }
      | some shared =>
        { machine.slots i with desc := (machine.slots i).desc.map fun _ => shared.desc } }

/-- `ensure_encoder` once `configure` answered. -/
def configured (i : VideoIntake) (machine : Machine) (frame : FrameReady) (config : StagingConfig)
    (request : VideoRequest) (found : List (Option SharedTexture)) : VideoIntake :=
  match i.encoder.configure (openedMachine machine found) config (encoderConfig request) with
  | (encoder, false) =>
    -- `encoder_ready_` stays false: the next frame tries again
    { i with encoder := encoder, encoderConfigGeneration := request.configGeneration
             encoderGeneration := config.generation, thread := .answering frame false }
  | (encoder, true) =>
    { i with encoder := encoder, encoderReady := true, encoderGeneration := config.generation
             encoderConfigGeneration := request.configGeneration
             -- A brand new encoder owes the client a parameter set
             idrSeen := 0, bitrateSeen := request.bitrateGeneration
             textures := found.filterMap (Option.map SharedTexture.id)
             thread := .encoding frame request }

/-- A new target is handed to the running components before the frame. -/
def retune (i : VideoIntake) (request : VideoRequest) : VideoIntake :=
  if request.bitrateGeneration ≠ i.bitrateSeen then
    { i with bitrateSeen := request.bitrateGeneration
             encoder := i.encoder.setBitrate request.bitrateBps }
  else i

/-- What `encode_one` does with the result of `encode`. -/
def concluded (i : VideoIntake) (frame : FrameReady) (forceIdr : Bool) (request : VideoRequest)
    (result : EncodeResult) : VideoIntake :=
  match result with
  | .ok =>
    { i with idrSeen := if forceIdr then request.idrGeneration else i.idrSeen
             thread := .answering frame true }
  | .dropped => { i with thread := .answering frame false }
  | .fatal => { i.shutdownEncoder with thread := .answering frame false }

/-- What the encoder thread does next, with what it meets. -/
inductive EncoderAction where
  | wake
  | relock
  | readStaging
  | readRequest (request : VideoRequest)
  | openSlot (shared : Option SharedTexture)
  | configure (machine : Machine)
  | acquire (sync : Bool)
  | release
  | finish (env : EncodeEnv)
  | answer

/-- One step of the encoder thread. -/
def encoderStep (i : VideoIntake) : EncoderAction → Option VideoIntake
  | .wake =>
    match i.thread with
    | .waiting =>
      if i.stagingChanged ∧ i.hasEncoder ∧ i.encoderReady then
        some { i with stagingChanged := false, thread := .tearing }
      else if i.stagingChanged ∨ i.pending.isSome then
        some { i with stagingChanged := false }.takePending
      else none
    | _ => none
  | .relock =>
    match i.thread with
    | .tearing => some { i.shutdownEncoder with encoderGeneration := 0 }.takePending
    | _ => none
  | .readStaging =>
    match i.thread with
    | .taken frame =>
      match i.staging with
      | none => some { i.pushDone frame doneDropped with thread := .waiting }
      | some config => some { i with thread := .staged frame config }
    | _ => none
  | .readRequest request =>
    match i.thread with
    | .staged frame config =>
      if ¬ request.active then some { i with thread := .answering frame false }
      else if i.upToDate config request then some { i with thread := .encoding frame request }
      -- `configure` begins with a shutdown of its own
      else some { i.shutdownEncoder with thread := .opening frame config request [] }
    | _ => none
  | .openSlot shared =>
    match i.thread with
    | .opening frame config request found =>
      if found.length < config.count then
        some { i with thread := .opening frame config request (found ++ [shared]) }
      else none
    | _ => none
  | .configure machine =>
    match i.thread with
    | .opening frame config request found =>
      if found.length = config.count then some (i.configured machine frame config request found)
      else none
    | _ => none
  | .acquire sync =>
    match i.thread with
    | .encoding frame request =>
      let forceIdr := request.idrGeneration ≠ i.idrSeen
      let i := i.retune request
      match i.encoder.encodeAcquire frame sync with
      | (encoder, none) =>
        some { i with encoder := encoder, thread := .holding frame forceIdr request }
      | (encoder, some result) =>
        some ({ i with encoder := encoder }.concluded frame forceIdr request result)
    | _ => none
  | .release =>
    match i.thread with
    | .holding frame forceIdr request =>
      some { i with encoder := i.encoder.encodeRelease frame
                    thread := .released frame forceIdr request }
    | _ => none
  | .finish env =>
    match i.thread with
    | .released frame forceIdr request =>
      match i.encoder.encodeRest frame forceIdr env with
      | (encoder, result, _) =>
        some ({ i with encoder := encoder }.concluded frame forceIdr request result)
    | _ => none
  | .answer =>
    match i.thread with
    | .answering frame true =>
      some { i.pushDone frame doneEncoded with
              framesEncoded := i.framesEncoded + 1, thread := .waiting }
    | .answering frame false =>
      some { i.pushDone frame doneDropped with
              framesDropped := i.framesDropped + 1, thread := .waiting }
    | _ => none

end VideoIntake

end WivrnNx
