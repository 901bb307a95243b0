import WivrnNx.Encoder.VideoEncoder
import WivrnNx.Lib.DropGroups

/-!
# Between the encoder thread and the session thread

`VideoBridge` (video_bridge.cpp): what the session asks the encoder for, what the
encoder is producing, and the short queue of encoded frames. Every member
function holds the mutex throughout, so each is one step.
-/

namespace WivrnNx

/-- `VideoRequest`. -/
structure VideoRequest where
  active : Bool := false
  refreshHz : Flt := .val 90
  bitrateBps : ℕ := 50000000
  bitrateGeneration : ℕ := 0
  allowH265 : Bool := true
  allowH264 : Bool := true
  idrGeneration : ℕ := 0
  configGeneration : ℕ := 0
deriving DecidableEq, Repr

/-- `VideoBridge::StreamState`. -/
structure StreamState where
  info : EncoderStreamInfo := {}
  valid : Bool := false
  generation : ℕ := 0
deriving DecidableEq, Repr

/-- `VideoBridge`. -/
structure VideoBridge where
  request : VideoRequest := {}
  prefBitrateBps : ℕ := 50000000
  /-- 0 auto, 1 H.264, 2 HEVC. -/
  prefCodec : ℕ := 0
  prefAdaptive : Bool := true
  stream : StreamState := {}
  frames : List EncodedFrame := []
  framesQueued : ℕ := 0
  framesDropped : ℕ := 0
deriving DecidableEq, Repr

namespace VideoBridge

/-- `kMaxQueued`: two eyes of two frames. -/
def maxQueued : ℕ := 4

/-- `set_prefs`: the command line, once, before any client. -/
def setPrefs (b : VideoBridge) (bitrateBps codec : ℕ) (adaptive : Bool) : VideoBridge :=
  { b with prefBitrateBps := bitrateBps, prefCodec := codec, prefAdaptive := adaptive,
           request := { b.request with bitrateBps := bitrateBps } }

/-- `set_bitrate`: what the controller decided. -/
def setBitrate (b : VideoBridge) (bitrateBps : ℕ) : VideoBridge :=
  if ¬ b.request.active ∨ bitrateBps = 0 ∨ bitrateBps = b.request.bitrateBps then b
  else
    { b with request := { b.request with
        bitrateBps := bitrateBps, bitrateGeneration := b.request.bitrateGeneration + 1 } }

/-- The codecs a client may be given: the command line narrows what it offered. -/
def allowed (b : VideoBridge) (allowH265 allowH264 : Bool) : Bool × Bool :=
  if b.prefCodec = 1 then (false, allowH264)
  else if b.prefCodec = 2 then (allowH265, false)
  else (allowH265, allowH264)

/-- Whether `set_client` asks for a different encoder. -/
def clientChanged (b : VideoBridge) (refreshHz : Flt) (allowH265 allowH264 : Bool) : Bool :=
  !b.request.active || !(b.request.refreshHz.beq refreshHz) ||
    (b.request.allowH265, b.request.allowH264) != b.allowed allowH265 allowH264

/-- `set_client`: a client connected, or wants another refresh rate. -/
def setClient (b : VideoBridge) (refreshHz : Flt) (allowH265 allowH264 : Bool) : VideoBridge :=
  let changed := b.clientChanged refreshHz allowH265 allowH264
  let r := b.request
  { b with request :=
    { active := true
      refreshHz := refreshHz
      -- A new session starts at the ceiling
      bitrateBps := b.prefBitrateBps
      bitrateGeneration :=
        if r.bitrateBps ≠ b.prefBitrateBps then r.bitrateGeneration + 1 else r.bitrateGeneration
      allowH265 := (b.allowed allowH265 allowH264).1
      allowH264 := (b.allowed allowH265 allowH264).2
      -- A client that was just given an encoder has never seen a parameter set
      idrGeneration := if changed then r.idrGeneration + 1 else r.idrGeneration
      configGeneration := if changed then r.configGeneration + 1 else r.configGeneration } }

/-- `clear_client`: what was encoded but not sent belongs to a session that is
over. -/
def clearClient (b : VideoBridge) : VideoBridge :=
  if ¬ b.request.active then b
  else { b with request := { b.request with active := false }, frames := [] }

/-- `request_idr`. -/
def requestIdr (b : VideoBridge) : VideoBridge :=
  { b with request := { b.request with idrGeneration := b.request.idrGeneration + 1 } }

/-- `take_frames`: drains the queue. -/
def takeFrames (b : VideoBridge) : VideoBridge × List EncodedFrame :=
  ({ b with frames := [] }, b.frames)

/-- `publish_stream`: a redundant description does not move the generation. -/
def publishStream (b : VideoBridge) (info : EncoderStreamInfo) (valid : Bool) : VideoBridge :=
  if b.stream.valid = valid ∧ b.stream.info = info then b
  else { b with stream := ⟨info, valid, b.stream.generation + 1⟩ }

/-- The queue after `frames` were pushed: oldest first, by whole frames. -/
def queueAfterPush (b : VideoBridge) (frames : List EncodedFrame) : List EncodedFrame :=
  DropGroups.trimAt EncodedFrame.frameId 0 maxQueued (b.frames ++ frames)

/-- `push_frames`. -/
def pushFrames (b : VideoBridge) (frames : List EncodedFrame) : VideoBridge :=
  if frames = [] ∨ ¬ b.request.active then b
  else
    { b with frames := b.queueAfterPush frames
             framesQueued := b.framesQueued + frames.length
             framesDropped := b.framesDropped +
               (b.frames.length + frames.length - (b.queueAfterPush frames).length) }

@[simp] theorem requestIdr_frames (b : VideoBridge) : b.requestIdr.frames = b.frames := rfl

@[simp] theorem setClient_frames (b : VideoBridge) (hz : Flt) (h265 h264 : Bool) :
    (b.setClient hz h265 h264).frames = b.frames := rfl

@[simp] theorem publishStream_frames (b : VideoBridge) (info : EncoderStreamInfo) (valid : Bool) :
    (b.publishStream info valid).frames = b.frames := by
  unfold publishStream
  split <;> rfl

@[simp] theorem publishStream_request (b : VideoBridge) (info : EncoderStreamInfo)
    (valid : Bool) : (b.publishStream info valid).request = b.request := by
  unfold publishStream
  split <;> rfl

@[simp] theorem pushFrames_request (b : VideoBridge) (frames : List EncodedFrame) :
    (b.pushFrames frames).request = b.request := by
  unfold pushFrames
  split <;> rfl

@[simp] theorem setBitrate_frames (b : VideoBridge) (bps : ℕ) :
    (b.setBitrate bps).frames = b.frames := by
  unfold setBitrate
  split <;> rfl

/-- A new request never goes back to an older generation. -/
theorem setClient_generations (b : VideoBridge) (hz : Flt) (h265 h264 : Bool) :
    b.request.configGeneration ≤ (b.setClient hz h265 h264).request.configGeneration ∧
      b.request.idrGeneration ≤ (b.setClient hz h265 h264).request.idrGeneration := by
  unfold setClient
  dsimp only
  split
  · exact ⟨Nat.le_succ _, Nat.le_succ _⟩
  · exact ⟨le_refl _, le_refl _⟩

/-- A push without a client, or of nothing, is no push. -/
theorem pushFrames_frames (b : VideoBridge) (frames : List EncodedFrame) :
    (b.pushFrames frames).frames =
      if frames = [] ∨ ¬ b.request.active then b.frames else b.queueAfterPush frames := by
  unfold pushFrames
  split <;> rfl

/-- The queue never holds more than two frames' eyes. -/
theorem queueAfterPush_length (b : VideoBridge) (frames : List EncodedFrame) :
    (b.queueAfterPush frames).length ≤ maxQueued := by
  rcases DropGroups.trimAt_length EncodedFrame.frameId 0 maxQueued (b.frames ++ frames) with h | h
  · exact h
  · exact h.trans (Nat.zero_le _)

end VideoBridge

end WivrnNx
