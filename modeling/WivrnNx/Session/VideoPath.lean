import WivrnNx.Intake.EncoderSteps
import WivrnNx.Session.Traced
import WivrnNx.Session.Transport

/-!
# The video path, from the staging ring to the socket

The frame intake with its encoder thread, the bridge, and the video half of a session,
for any number of sessions one after the other. Each event is what one thread does
between two looks at something another thread can touch.

- the pipe loop: `stagingConfig`, `frameReady`, `popDone`, `shimGone`;
- the encoder thread: `encoder`, with what it pushes, and `publish`;
- the session: `connect` and `setup`, then any packets and, over and over,
  `update_stream_description` (`look`, `ask`) and `pump_video`; `disconnect`.

Next to the code's own state stands what an observer knows: how many clients there have
been, and where each frame comes from.
-/

namespace WivrnNx

open Ipc Video

/-- `to_headset::video_stream_description`, as far as the session sets it; the codec goes
out four times. -/
structure StreamDescription where
  width : UInt16 := 0
  height : UInt16 := 0
  codec : ClientCodec := .h264
  frameRate : Flt := .val 90
  refreshRate : Flt := .val 90
deriving DecidableEq, Repr

namespace StreamDescription

/-- The defaulted `operator==`: floats are compared as floats. -/
def beq (a b : StreamDescription) : Bool :=
  decide (a.width = b.width) && decide (a.height = b.height) && decide (a.codec = b.codec) &&
    a.frameRate.beq b.frameRate && a.refreshRate.beq b.refreshRate

/-- The codec a client is told of. -/
def codecOf : VideoCodec → ClientCodec
  | .h264 => .h264
  | .h265 => .h265

/-- The description names what an encoder produces. -/
structure Describes (d : StreamDescription) (info : EncoderStreamInfo) : Prop where
  width : d.width.toNat = info.width.toNat
  height : d.height.toNat = info.height.toNat
  codec : d.codec = codecOf info.codec

end StreamDescription

/-- `to_headset::foveation_parameter`. -/
structure Foveation where
  x : List UInt16
  y : List UInt16
deriving DecidableEq, Repr

/-- `identity_foveation`: one run over the whole image. -/
def identityFoveation (width height : UInt16) : Foveation := { x := [width], y := [height] }

/-- Where the session thread is. -/
inductive SessionThread where
  /-- There is no session. -/
  | away
  /-- In the constructor: the headset's info was handled. -/
  | shaking
  /-- In `run`, anywhere between `pump_video` and `update_stream_description`. -/
  | looping
  /-- A new description was sent; `request_idr` is next. -/
  | asking
  /-- `pump_video` is next. -/
  | described
deriving DecidableEq, Repr

/-- A frame that the sender has begun, with what the client had been told. -/
structure Begun where
  traced : Traced
  /-- The most recent description sent. -/
  description : StreamDescription
  /-- What `begin_video_frame` put into the frame's view info. -/
  foveation : Foveation
deriving DecidableEq, Repr

/-- The intake, the bridge and the session. -/
structure VideoPath (V T G : Type*) where
  intake : VideoIntake := {}
  /-- What the encoder thread is about to publish, before it goes on. -/
  publication : Option (EncoderStreamInfo × Bool) := none
  bridge : VideoBridge := {}
  session : SessionThread := .away
  video : Video V T G
  refreshHz : Flt := .val 90
  description : StreamDescription := {}
  descriptionSent : Bool := false
  streamGeneration : ℕ := 0
  idrRequests : ℕ := 0
  /- What an observer knows. -/
  /-- How many clients there have been. -/
  client : ℕ := 0
  /-- How many there had been when the encoder thread last read the request. -/
  snapshotClient : ℕ := 0
  /-- The last valid stream that this session has looked at. -/
  seen : Option EncoderStreamInfo := none
  bridged : List Traced := []
  queued : List Traced := []
  /-- What this session has begun, and what it has handed over whole. -/
  begun : List Begun := []
  finished : List Traced := []

namespace VideoPath

variable {V T G P : Type*}

/-- What may happen next. -/
inductive Event (V T G : Type*) where
  | stagingConfig (config : StagingConfig)
  | frameReady (frame : FrameReady)
  | popDone
  | shimGone
  | encoder (a : VideoIntake.EncoderAction)
  /-- `publish_stream`, which the encoder thread has come to. -/
  | publish
  /-- The constructor, up to `publish_video_request`. -/
  | connect (sender : PacedSender V T G) (refreshHz : Flt) (allowH265 allowH264 : Bool)
  /-- `run`, up to its loop; the provisional description comes from the headset's info. -/
  | setup (width height : UInt32) (codec : ClientCodec)
  /-- `publish_video_request`, for another refresh rate or another headset info. -/
  | publishRequest (refreshHz : Flt) (allowH265 allowH264 : Bool)
  | setBitrate (bitrateBps : ℕ)
  /-- What the packet handlers leave of the transport settings. -/
  | settings (pacingEnabled : Bool) (pacingWindow : ℚ) (framePeriodNs : ℤ)
      (pacingSlot : PacingSlot) (fecEnabled hasStreamSocket : Bool)
  | feedback (feedback : Feedback) (now : ℤ)
  | poll (now : ℤ)
  /-- `update_stream_description`, up to its `request_idr`. -/
  | look
  | ask
  /-- `pump_video`; `view` is what the poses make of a frame's view info. -/
  | pump (env : PumpEnv V T) (view : Foveation → EncodedFrame → V)
  /-- The session is over, however it ended. -/
  | disconnect

/-- `pump_video`. -/
def Event.isPump : Event V T G → Bool
  | .pump _ _ => true
  | _ => false

/-! ## The encoder thread -/

/-- What is to be published after a step of the encoder thread: that a ready encoder is no
more, or what the one just configured produces. -/
def announces (i i' : VideoIntake) : Option (EncoderStreamInfo × Bool) :=
  if i.encoderReady ∧ ¬ i'.encoderReady then some ({}, false)
  else if ¬ i.encoderReady ∧ i'.encoderReady then some (i'.encoder.info, true)
  else none

/-- What a step of the encoder thread pushes, and which call made it. -/
def pushed (i : VideoIntake) : VideoIntake.EncoderAction → List EncodedFrame × Bool
  | .finish env =>
    match i.thread with
    | .released frame forceIdr _ =>
      (AmfVideoEncoder.labelled frame (i.encoder.encodeRest frame forceIdr env).2.2, forceIdr)
    | _ => ([], false)
  | _ => ([], false)

/-- Where the frames that a step of the encoder thread pushes come from. -/
def origin (s : VideoPath V T G) (forceIdr : Bool) : Origin :=
  { info := s.intake.encoder.info, forceIdr := forceIdr, client := s.snapshotClient,
    stream := s.bridge.stream }

/-- The frames that a step of the encoder thread pushes. -/
def pushedTraced (s : VideoPath V T G) (a : VideoIntake.EncoderAction) : List Traced :=
  (pushed s.intake a).1.map fun f => ⟨f, s.origin (pushed s.intake a).2⟩

/-- The request is read from the bridge. -/
def reads (b : VideoBridge) : VideoIntake.EncoderAction → Bool
  | .readRequest request => request = b.request
  | _ => true

/-- How many clients there had been at the last look at the request. -/
def snapshotAfter (s : VideoPath V T G) : VideoIntake.EncoderAction → ℕ
  | .readRequest _ => s.client
  | _ => s.snapshotClient

/-- The state once the encoder thread has come to `i'`. -/
def encoded (s : VideoPath V T G) (a : VideoIntake.EncoderAction) (i' : VideoIntake) :
    VideoPath V T G :=
  { s with
    intake := i'
    publication := announces s.intake i'
    bridge := s.bridge.pushFrames (pushed s.intake a).1
    snapshotClient := s.snapshotAfter a
    bridged := Traced.push s.bridge s.bridged (s.pushedTraced a) }

/-! ## The session -/

/-- The description of a stream that `update_stream_description` compares with the one the
client has. -/
def describe (s : VideoPath V T G) (info : EncoderStreamInfo) : StreamDescription :=
  { s.description with
    width := info.width.toUInt16, height := info.height.toUInt16,
    codec := StreamDescription.codecOf info.codec,
    frameRate := s.refreshHz, refreshRate := s.refreshHz }

/-- `update_stream_description`, up to its `request_idr`. -/
def look (s : VideoPath V T G) : VideoPath V T G :=
  let state := s.bridge.stream
  if state.generation = s.streamGeneration then { s with session := .described }
  else
    let s := { s with streamGeneration := state.generation }
    if ¬ state.valid then { s with session := .described }
    else
      let s := { s with seen := some state.info }
      if s.descriptionSent ∧ (s.describe state.info).beq s.description then
        { s with session := .described }
      else
        { s with description := s.describe state.info, descriptionSent := true,
                 session := .asking }

/-- `request_idr`, and the rest of `update_stream_description`. -/
def ask (s : VideoPath V T G) : VideoPath V T G :=
  { s with bridge := s.bridge.requestIdr, idrRequests := s.idrRequests + 1,
           video := { s.video with idr := s.video.idr.reset }, session := .described }

/-- What an answer of the tracker comes to. -/
def answer (s : VideoPath V T G) (r : IdrTracker × Bool) : VideoPath V T G :=
  let s := { s with video := { s.video with idr := r.1 } }
  if r.2 then { s with bridge := s.bridge.requestIdr, idrRequests := s.idrRequests + 1 } else s

/-- What `begin_video_frame` puts into the view info. -/
def foveation (s : VideoPath V T G) : Foveation :=
  identityFoveation s.description.width s.description.height

/-- The session's queue once `take_frames` has been called and the trim is over. -/
def waiting (s : VideoPath V T G) : List Traced := Traced.enqueue s.video s.queued s.bridged

/-- `pump_video`. -/
def pump (w : WireFormat V T G P) (s : VideoPath V T G) (env : PumpEnv V T)
    (view : Foveation → EncodedFrame → V) : VideoPath V T G :=
  let r := pumpVideo w { env with viewInfo := view s.foveation } s.video s.bridge
  { s with
    bridge := r.2.1, video := r.1, session := .looping, bridged := []
    queued := Traced.queuedAfter s.waiting r.1
    begun := s.begun ++ (Traced.begunBy s.waiting s.video r.1).map fun t =>
      ⟨t, s.description, s.foveation⟩
    finished := s.finished ++ Traced.finishedBy s.waiting r.1 r.2.2 }

/-- A session begins with nothing queued and nothing under way. -/
def connect (s : VideoPath V T G) (sender : PacedSender V T G) (refreshHz : Flt)
    (allowH265 allowH264 : Bool) : VideoPath V T G :=
  { s with
    bridge := s.bridge.setClient refreshHz allowH265 allowH264
    session := .shaking, video := { sender := sender.abort }, refreshHz := refreshHz
    description := {}, descriptionSent := false, streamGeneration := 0, idrRequests := 0
    client := s.client + 1, seen := none, queued := [], begun := [], finished := [] }

/-- The session is gone with all it holds; `clear_client` is the destructor's, or the
server's when the constructor threw. -/
def disconnect (s : VideoPath V T G) : VideoPath V T G :=
  { s with
    session := .away, bridge := s.bridge.clearClient
    video := { sender := s.video.sender.abort }
    bridged := if s.bridge.request.active then [] else s.bridged
    queued := [], begun := [], finished := [] }

/-- `idr_.reset` and `send_stream_setup`. -/
def setup (s : VideoPath V T G) (width height : UInt32) (codec : ClientCodec) : VideoPath V T G :=
  { s with
    video := { s.video with idr := s.video.idr.reset }
    description := { width := width.toUInt16, height := height.toUInt16, codec := codec,
                     frameRate := s.refreshHz, refreshRate := s.refreshHz }
    descriptionSent := true, session := .looping, seen := none }

/-- One event. -/
def step (w : WireFormat V T G P) (s : VideoPath V T G) : Event V T G → Option (VideoPath V T G)
  | .stagingConfig config => some { s with intake := s.intake.onStagingConfig config }
  | .frameReady frame =>
    some { s with intake := s.intake.onFrameReady s.bridge.request.active frame }
  | .popDone => s.intake.popDone.map fun r => { s with intake := r.2 }
  | .shimGone => some { s with intake := s.intake.onShimGone }
  | .encoder a =>
    if s.publication = none ∧ reads s.bridge a then (s.intake.encoderStep a).map (s.encoded a)
    else none
  | .publish => s.publication.map fun p =>
    { s with publication := none, bridge := s.bridge.publishStream p.1 p.2 }
  | .connect sender hz h265 h264 =>
    if s.session = .away then some (s.connect sender hz h265 h264) else none
  | .setup width height codec =>
    if s.session = .shaking then some (s.setup width height codec) else none
  | .publishRequest hz h265 h264 =>
    if s.session = .looping then
      some { s with bridge := s.bridge.setClient hz h265 h264, refreshHz := hz }
    else none
  | .setBitrate bps =>
    if s.session = .away then none else some { s with bridge := s.bridge.setBitrate bps }
  | .settings enabled window period slot fec stream =>
    if s.session = .away then none
    else some { s with video := { s.video with
      pacingEnabled := enabled, pacingWindow := window, framePeriodNs := period,
      pacingSlot := slot, fecEnabled := fec, hasStreamSocket := stream } }
  | .feedback feedback now =>
    if s.session = .looping then some (s.answer (s.video.idr.onFeedback feedback now)) else none
  | .poll now => if s.session = .looping then some (s.answer (s.video.idr.poll now)) else none
  | .look => if s.session = .looping then some s.look else none
  | .ask => if s.session = .asking then some s.ask else none
  | .pump env view => if s.session = .described then some (s.pump w env view) else none
  | .disconnect =>
    if s.session = .away then none
    else some s.disconnect

/-- The helper has just started. -/
def init (hasEncoder : Bool) (sender : PacedSender V T G) : VideoPath V T G :=
  { intake := { hasEncoder := hasEncoder }, video := { sender := sender.abort } }

/-! ## What an event can do -/

/-- A push is the end of a call that has released its slot. -/
theorem pushed_released {i : VideoIntake} {a : VideoIntake.EncoderAction}
    (h : (pushed i a).1 ≠ []) : ∃ frame forceIdr request env,
      i.thread = .released frame forceIdr request ∧ a = .finish env ∧
      (pushed i a) = (AmfVideoEncoder.labelled frame
        (i.encoder.encodeRest frame forceIdr env).2.2, forceIdr) := by
  unfold pushed at h ⊢
  cases a with
  | finish env =>
    cases hthread : i.thread with
    | released frame forceIdr request => exact ⟨frame, forceIdr, request, env, rfl, rfl, rfl⟩
    | waiting | tearing | taken | staged | opening | encoding | holding | answering =>
      rw [hthread] at h
      exact absurd rfl h
  | wake | relock | readStaging | readRequest | openSlot | configure | acquire | release | answer =>
    exact absurd rfl h

/-- An event that only touches what the pipe loop keeps for itself, the bitrate, and the
transport settings. -/
structure Quiet (s s' : VideoPath V T G) : Prop where
  encoder : s'.intake.encoder = s.intake.encoder
  encoderReady : s'.intake.encoderReady = s.intake.encoderReady
  encoderConfigGeneration : s'.intake.encoderConfigGeneration = s.intake.encoderConfigGeneration
  idrSeen : s'.intake.idrSeen = s.intake.idrSeen
  thread : s'.intake.thread = s.intake.thread
  publication : s'.publication = s.publication
  stream : s'.bridge.stream = s.bridge.stream
  frames : s'.bridge.frames = s.bridge.frames
  active : s'.bridge.request.active = s.bridge.request.active
  configGeneration : s'.bridge.request.configGeneration = s.bridge.request.configGeneration
  idrGeneration : s'.bridge.request.idrGeneration = s.bridge.request.idrGeneration
  queue : s'.video.queue = s.video.queue
  sender : s'.video.sender = s.video.sender
  idr : s'.video.idr = s.video.idr
  session : s'.session = s.session
  description : s'.description = s.description
  descriptionSent : s'.descriptionSent = s.descriptionSent
  seen : s'.seen = s.seen
  client : s'.client = s.client
  snapshotClient : s'.snapshotClient = s.snapshotClient
  bridged : s'.bridged = s.bridged
  queued : s'.queued = s.queued
  begun : s'.begun = s.begun
  finished : s'.finished = s.finished

/-- The events that are quiet. -/
def Event.isQuiet : Event V T G → Bool
  | .stagingConfig _ | .frameReady _ | .popDone | .shimGone | .setBitrate _ => true
  | .settings _ _ _ _ _ _ => true
  | _ => false

/-- Every event is quiet or one of these. -/
inductive Moved (w : WireFormat V T G P) (s : VideoPath V T G) :
    Event V T G → VideoPath V T G → Prop where
  | quiet (e : Event V T G) (s' : VideoPath V T G) (he : e.isQuiet = true) (h : Quiet s s')
      (hpending : ∀ frame, s'.intake.pending = some frame →
        s.intake.pending = some frame ∨ e = .frameReady frame) : Moved w s e s'
  | encoder (a : VideoIntake.EncoderAction) (i' : VideoIntake) (hidle : s.publication = none)
      (hreads : reads s.bridge a = true) (hstep : s.intake.Stepped a i') :
      Moved w s (.encoder a) (s.encoded a i')
  | publish (info : EncoderStreamInfo) (valid : Bool) (h : s.publication = some (info, valid)) :
      Moved w s .publish
        { s with publication := none, bridge := s.bridge.publishStream info valid }
  | connect (sender : PacedSender V T G) (hz : Flt) (h265 h264 : Bool)
      (haway : s.session = .away) :
      Moved w s (.connect sender hz h265 h264) (s.connect sender hz h265 h264)
  | setup (width height : UInt32) (codec : ClientCodec) (hshaking : s.session = .shaking) :
      Moved w s (.setup width height codec) (s.setup width height codec)
  | publishRequest (hz : Flt) (h265 h264 : Bool) (hlooping : s.session = .looping) :
      Moved w s (.publishRequest hz h265 h264)
        { s with bridge := s.bridge.setClient hz h265 h264, refreshHz := hz }
  | answer (e : Event V T G) (r : IdrTracker × Bool) (hlooping : s.session = .looping)
      (hr : (∃ feedback now, e = .feedback feedback now ∧
          r = s.video.idr.onFeedback feedback now) ∨
        ∃ now, e = .poll now ∧ r = s.video.idr.poll now) :
      Moved w s e (s.answer r)
  | look (hlooping : s.session = .looping) : Moved w s .look s.look
  | ask (hasking : s.session = .asking) : Moved w s .ask s.ask
  | pump (env : PumpEnv V T) (view : Foveation → EncodedFrame → V)
      (hdescribed : s.session = .described) : Moved w s (.pump env view) (s.pump w env view)
  | disconnect (hpresent : s.session ≠ .away) : Moved w s .disconnect s.disconnect

/-- What the pipe loop does to the intake is nothing to the encoder thread. -/
theorem quiet_intake (s : VideoPath V T G) {i' : VideoIntake}
    (h : i'.encoder = s.intake.encoder ∧ i'.encoderReady = s.intake.encoderReady ∧
      i'.encoderConfigGeneration = s.intake.encoderConfigGeneration ∧
      i'.idrSeen = s.intake.idrSeen ∧ i'.thread = s.intake.thread) :
    Quiet s { s with intake := i' } := by
  rcases h with ⟨hencoder, hready, hconfig, hseen, hthread⟩
  constructor <;> first | rfl | assumption

theorem step_moved {w : WireFormat V T G P} {s s' : VideoPath V T G} {e : Event V T G}
    (h : step w s e = some s') : Moved w s e s' := by
  cases e with
  | stagingConfig config =>
    cases h
    have hdrop : s.intake.dropOther config = s.intake ∨
        ∃ frame, s.intake.dropOther config =
          { s.intake.pushDone frame VideoIntake.doneDropped with pending := none } := by
      unfold VideoIntake.dropOther
      split
      · exact .inl rfl
      · rename_i frame _
        split
        · exact .inr ⟨frame, rfl⟩
        · exact .inl rfl
    rcases hdrop with hdrop | ⟨frame, hdrop⟩
    · refine .quiet _ _ rfl (s.quiet_intake ?_) ?_
      · simp [VideoIntake.onStagingConfig, hdrop]
      · simp [VideoIntake.onStagingConfig, hdrop]
    · refine .quiet _ _ rfl (s.quiet_intake ?_) ?_
      · simp [VideoIntake.onStagingConfig, hdrop, VideoIntake.pushDone]
      · simp [VideoIntake.onStagingConfig, hdrop]
  | frameReady frame =>
    cases h
    refine .quiet _ _ rfl (s.quiet_intake ?_) ?_
    · simp only [VideoIntake.onFrameReady]
      split
      · exact ⟨rfl, rfl, rfl, rfl, rfl⟩
      · split
        · exact ⟨rfl, rfl, rfl, rfl, rfl⟩
        · simp only [VideoIntake.accept, VideoIntake.supersede]
          split
          · exact ⟨rfl, rfl, rfl, rfl, rfl⟩
          · exact ⟨rfl, rfl, rfl, rfl, rfl⟩
    · intro waiting hwaiting
      simp only [VideoIntake.onFrameReady] at hwaiting
      split at hwaiting
      · exact .inl hwaiting
      · split at hwaiting
        · exact .inl hwaiting
        · cases hwaiting
          exact .inr rfl
  | popDone =>
    simp only [step, VideoIntake.popDone, Option.map_eq_some_iff] at h
    rcases h with ⟨r, hr, rfl⟩
    split at hr
    · cases hr
    · cases hr
      exact .quiet _ _ rfl (s.quiet_intake ⟨rfl, rfl, rfl, rfl, rfl⟩) fun _ hwaiting => .inl hwaiting
  | shimGone =>
    cases h
    refine .quiet _ _ rfl (s.quiet_intake ⟨rfl, rfl, rfl, rfl, rfl⟩) ?_
    intro _ hwaiting
    cases hwaiting
  | encoder a =>
    simp only [step] at h
    split at h
    · rename_i hguard
      simp only [Option.map_eq_some_iff] at h
      rcases h with ⟨i', hi, rfl⟩
      exact .encoder a i' hguard.1 hguard.2 (VideoIntake.encoderStep_stepped hi)
    · cases h
  | publish =>
    simp only [step, Option.map_eq_some_iff] at h
    rcases h with ⟨⟨info, valid⟩, hp, rfl⟩
    exact .publish info valid hp
  | connect sender hz h265 h264 =>
    simp only [step] at h
    split at h
    · rename_i haway
      cases h
      exact .connect sender hz h265 h264 haway
    · cases h
  | setup width height codec =>
    simp only [step] at h
    split at h
    · rename_i hshaking
      cases h
      exact .setup width height codec hshaking
    · cases h
  | publishRequest hz h265 h264 =>
    simp only [step] at h
    split at h
    · rename_i hlooping
      cases h
      exact .publishRequest hz h265 h264 hlooping
    · cases h
  | setBitrate bps =>
    simp only [step] at h
    split at h
    · cases h
    · cases h
      refine .quiet _ _ rfl ?_ fun _ hwaiting => .inl hwaiting
      unfold VideoBridge.setBitrate
      split
      · constructor <;> rfl
      · constructor <;> rfl
  | settings enabled window period slot fec stream =>
    simp only [step] at h
    split at h
    · cases h
    · cases h
      refine .quiet _ _ rfl ?_ fun _ hwaiting => .inl hwaiting
      constructor <;> rfl
  | feedback feedback now =>
    simp only [step] at h
    split at h
    · rename_i hlooping
      cases h
      exact .answer _ _ hlooping (.inl ⟨feedback, now, rfl, rfl⟩)
    · cases h
  | poll now =>
    simp only [step] at h
    split at h
    · rename_i hlooping
      cases h
      exact .answer _ _ hlooping (.inr ⟨now, rfl, rfl⟩)
    · cases h
  | look =>
    simp only [step] at h
    split at h
    · rename_i hlooping
      cases h
      exact .look hlooping
    · cases h
  | ask =>
    simp only [step] at h
    split at h
    · rename_i hasking
      cases h
      exact .ask hasking
    · cases h
  | pump env view =>
    simp only [step] at h
    split at h
    · rename_i hdescribed
      cases h
      exact .pump env view hdescribed
    · cases h
  | disconnect =>
    simp only [step] at h
    split at h
    · cases h
    · rename_i hpresent
      cases h
      exact .disconnect hpresent

/-! ## The observer's queues -/

/-- The observer's queues are the code's, and the frame under way is at the head. -/
structure Tracks (s : VideoPath V T G) : Prop where
  bridged : Traced.frames s.bridged = s.bridge.frames
  queued : Traced.frames s.queued = s.video.queue
  head : Video.Inv s.video

theorem inv_of_idle {v : Video V T G} (h : v.sender.active = false) : Video.Inv v := by
  intro hactive
  rw [h] at hactive
  cases hactive

theorem inv_of_eq {v v' : Video V T G} (h : Video.Inv v) (hsender : v'.sender = v.sender)
    (hqueue : v'.queue = v.queue) : Video.Inv v' := by
  intro hactive
  rw [hsender] at hactive
  rw [hqueue, hsender]
  exact h hactive

theorem init_tracks (hasEncoder : Bool) (sender : PacedSender V T G) :
    (init hasEncoder sender).Tracks :=
  ⟨rfl, rfl, inv_of_idle rfl⟩

@[simp] theorem pushedTraced_frames (s : VideoPath V T G) (a : VideoIntake.EncoderAction) :
    Traced.frames (s.pushedTraced a) = (pushed s.intake a).1 := by
  simp [pushedTraced, Traced.frames, Function.comp_def]

/-- What waits is what the session's queue is after the trim. -/
theorem Tracks.waiting {s : VideoPath V T G} (h : s.Tracks) :
    Traced.frames s.waiting = (s.video.enqueue s.bridge.frames).queue := by
  rw [VideoPath.waiting, Traced.enqueue_frames h.queued, h.bridged]

/-- The observer sees of a pump what the pump did. -/
theorem Tracks.pumped {w : WireFormat V T G P} {s : VideoPath V T G} (h : s.Tracks)
    (env : PumpEnv V T) (view : Foveation → EncodedFrame → V) :
    Traced.Pumped w { env with viewInfo := view s.foveation } s.video s.bridge s.waiting :=
  Traced.pumpVideo_traced w _ h.head s.bridge h.waiting

/-- The frame under way is in the queue. -/
theorem Tracks.protected_le {s : VideoPath V T G} (h : s.Tracks) :
    s.video.protectedEntries ≤ s.queued.length := by
  cases hactive : s.video.sender.active with
  | false => simp [protectedEntries_inactive hactive]
  | true =>
    rcases h.head hactive with ⟨f, rest, hcons, -⟩
    rw [← Traced.frames_length, h.queued, hcons, protectedEntries_active hactive]
    simp

/-- The frames that are still to be begun, in order. -/
def unbegun (s : VideoPath V T G) : List Traced :=
  s.queued.drop s.video.protectedEntries ++ s.bridged

/-- A pump begins frames in their order. -/
theorem Tracks.pump_sublist {w : WireFormat V T G P} {s : VideoPath V T G} (h : s.Tracks)
    (env : PumpEnv V T) (view : Foveation → EncodedFrame → V) :
    List.Sublist (Traced.begunBy s.waiting s.video (s.pump w env view).video ++
      (s.pump w env view).unbegun) s.unbegun := by
  have hsub := Traced.pumpVideo_sublist w { env with viewInfo := view s.foveation } h.head
    s.bridge h.waiting
  have hsuffix := Traced.enqueue_drop h.protected_le s.bridged
  have hempty : (s.pump w env view).bridged = [] := rfl
  rw [unbegun, hempty, List.append_nil]
  exact hsub.trans hsuffix.sublist

/-- An answer of the tracker is kept, and passed on as a request or not. -/
theorem answer_cases (s : VideoPath V T G) (r : IdrTracker × Bool) :
    ∃ bridge requests, ((r.2 = false ∧ bridge = s.bridge) ∨
        (r.2 = true ∧ bridge = s.bridge.requestIdr)) ∧
      s.answer r = { s with bridge := bridge, idrRequests := requests,
                            video := { s.video with idr := r.1 } } := by
  unfold answer
  dsimp only
  split
  · rename_i hasked
    exact ⟨_, _, .inr ⟨hasked, rfl⟩, rfl⟩
  · rename_i hquiet
    exact ⟨_, _, .inl ⟨by simpa using hquiet, rfl⟩, rfl⟩

/-- A look at the stream touches the description only. -/
theorem look_cases (s : VideoPath V T G) :
    ∃ thread generation seen description sent,
      (thread = .described ∨ thread = .asking) ∧
      s.look = { s with session := thread, streamGeneration := generation, seen := seen,
                        description := description, descriptionSent := sent } := by
  unfold look
  dsimp only
  split
  · exact ⟨_, _, _, _, _, .inl rfl, rfl⟩
  · split
    · exact ⟨_, _, _, _, _, .inl rfl, rfl⟩
    · split
      · exact ⟨_, _, _, _, _, .inl rfl, rfl⟩
      · exact ⟨_, _, _, _, _, .inr rfl, rfl⟩

/-- What is on the bridge after the session's end was there before. -/
theorem disconnect_bridged (s : VideoPath V T G) :
    List.Sublist s.disconnect.bridged s.bridged := by
  unfold disconnect
  dsimp only
  split
  · exact List.nil_sublist _
  · exact List.Sublist.refl _

theorem step_tracks {w : WireFormat V T G P} {s s' : VideoPath V T G} {e : Event V T G}
    (h : s.Tracks) (hs : step w s e = some s') : s'.Tracks := by
  cases step_moved hs with
  | quiet _ _ _ hq =>
    refine ⟨?_, ?_, inv_of_eq h.head hq.sender hq.queue⟩
    · rw [hq.bridged, hq.frames, h.bridged]
    · rw [hq.queued, hq.queue, h.queued]
  | encoder a i' =>
    refine ⟨?_, h.queued, h.head⟩
    have hpush := Traced.push_frames h.bridged (s.pushedTraced a)
    rw [pushedTraced_frames] at hpush
    exact hpush
  | publish info valid =>
    refine ⟨?_, h.queued, h.head⟩
    simpa using h.bridged
  | connect => exact ⟨h.bridged, rfl, inv_of_idle rfl⟩
  | setup => exact ⟨h.bridged, h.queued, inv_of_eq h.head rfl rfl⟩
  | publishRequest => exact ⟨h.bridged, h.queued, h.head⟩
  | answer _ r =>
    rcases s.answer_cases r with ⟨bridge, requests, hbridge, hanswer⟩
    rw [hanswer]
    refine ⟨?_, h.queued, inv_of_eq h.head rfl rfl⟩
    rcases hbridge with ⟨-, rfl⟩ | ⟨-, rfl⟩
    · exact h.bridged
    · exact h.bridged
  | look =>
    rcases s.look_cases with ⟨thread, generation, seen, description, sent, -, hlook⟩
    rw [hlook]
    exact ⟨h.bridged, h.queued, h.head⟩
  | ask => exact ⟨h.bridged, h.queued, inv_of_eq h.head rfl rfl⟩
  | pump env view =>
    refine ⟨rfl, ?_, ?_⟩
    · exact (h.pumped env view).queued
    · exact (pumpVideo_inv w _ h.head s.bridge).1
  | disconnect =>
    refine ⟨?_, rfl, inv_of_idle rfl⟩
    simp only [disconnect, VideoBridge.clearClient]
    cases s.bridge.request.active with
    | false => exact h.bridged
    | true => rfl

/-! ## A small ring -/

/-- A ring of one slot. -/
def ringOf (generation : ℕ) (width height : UInt32) : StagingConfig :=
  { generation := generation, width := width, height := height, dxgiFormat := 28, count := 1,
    handles := [generation] }

/-- `encode_one` for a frame just taken, up to a new encoder. -/
def configuring (config : StagingConfig) (request : VideoRequest) : List (Event V T G) :=
  [.encoder .readStaging, .encoder (.readRequest request),
    .encoder (.openSlot (some ⟨⟨config.generation, 0⟩,
      ⟨config.width, config.height, config.dxgiFormat⟩⟩)),
    .encoder (.configure (Machine.good config)), .publish]

/-- The rest of `encode_one`: both eyes come out. -/
def encoding : List (Event V T G) :=
  [.encoder (.acquire true), .encoder .release, .encoder (.finish {}), .encoder .answer]

/-- The request of the first client, after `idrs` requests for a key frame. -/
def requestOf (idrs : ℕ) : VideoRequest :=
  { (({} : VideoBridge).setClient (.val 90) true true).request with idrGeneration := idrs }

/-- A client comes and the first ring is announced. -/
def arriving (sender : PacedSender V T G) : List (Event V T G) :=
  [.connect sender (.val 90) true true, .setup 1600 1760 .h265, .stagingConfig (ringOf 1 64 32)]

/-- A frame of a ring is announced and taken. -/
def presenting (frameId generation : ℕ) : List (Event V T G) :=
  [.frameReady { frameId := frameId, generation := generation, stagingIndex := 0 },
    .encoder .wake]

end VideoPath

end WivrnNx
