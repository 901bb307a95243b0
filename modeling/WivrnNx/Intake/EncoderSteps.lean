import WivrnNx.VideoIntake

/-!
# What a step of the encoder thread can do

`encoderStep`, inverted once: each constructor of `Stepped` is one way through
`run`, `encode_one` or `ensure_encoder`, with what it was guarded by. An invariant of
the encoder thread is then one case per constructor.

- `Stepped`, `encoderStep_stepped`: the inversion;
- `takePending_thread`, `concluded_cases` and the rest: what the pieces of a step leave;
- `encodeAcquire_cases`, `encodeRest_ok`: the same for the two halves of `encode`.
-/

namespace WivrnNx.VideoIntake

open Ipc

/-- The ways through one step of the encoder thread. -/
inductive Stepped (i : VideoIntake) : EncoderAction → VideoIntake → Prop where
  /-- The staging changed while an encoder was ready. -/
  | tear (hthread : i.thread = .waiting)
      (hchanged : i.stagingChanged = true ∧ i.hasEncoder = true ∧ i.encoderReady = true) :
      Stepped i .wake { i with stagingChanged := false, thread := .tearing }
  | wake (hthread : i.thread = .waiting)
      (hwoken : i.stagingChanged = true ∨ i.pending.isSome = true) :
      Stepped i .wake ({ i with stagingChanged := false } : VideoIntake).takePending
  | relock (hthread : i.thread = .tearing) :
      Stepped i .relock ({ i.shutdownEncoder with encoderGeneration := 0 } : VideoIntake).takePending
  | unstaged (frame : FrameReady) (hthread : i.thread = .taken frame) (hstaging : i.staging = none) :
      Stepped i .readStaging { i.pushDone frame doneDropped with thread := .waiting }
  | staged (frame : FrameReady) (config : StagingConfig) (hthread : i.thread = .taken frame)
      (hstaging : i.staging = some config) :
      Stepped i .readStaging { i with thread := .staged frame config }
  | inactive (frame : FrameReady) (config : StagingConfig) (request : VideoRequest)
      (hthread : i.thread = .staged frame config) (hactive : request.active = false) :
      Stepped i (.readRequest request) { i with thread := .answering frame false }
  | current (frame : FrameReady) (config : StagingConfig) (request : VideoRequest)
      (hthread : i.thread = .staged frame config) (hactive : request.active = true)
      (hcurrent : i.upToDate config request = true) :
      Stepped i (.readRequest request) { i with thread := .encoding frame request }
  | rebuild (frame : FrameReady) (config : StagingConfig) (request : VideoRequest)
      (hthread : i.thread = .staged frame config) (hactive : request.active = true)
      (hstale : ¬ i.upToDate config request = true) :
      Stepped i (.readRequest request)
        { i.shutdownEncoder with thread := .opening frame config request [] }
  | opened (frame : FrameReady) (config : StagingConfig) (request : VideoRequest)
      (found : List (Option SharedTexture)) (shared : Option SharedTexture)
      (hthread : i.thread = .opening frame config request found)
      (hroom : found.length < config.count) :
      Stepped i (.openSlot shared)
        { i with thread := .opening frame config request (found ++ [shared]) }
  | configured (frame : FrameReady) (config : StagingConfig) (request : VideoRequest)
      (found : List (Option SharedTexture)) (machine : Machine)
      (hthread : i.thread = .opening frame config request found)
      (hlength : found.length = config.count) :
      Stepped i (.configure machine) (i.configured machine frame config request found)
  /-- `encode` got as far as the slot. -/
  | acquired (frame : FrameReady) (request : VideoRequest) (sync : Bool)
      (encoder : AmfVideoEncoder) (hthread : i.thread = .encoding frame request)
      (hencode : (i.retune request).encoder.encodeAcquire frame sync = (encoder, none)) :
      Stepped i (.acquire sync) { i.retune request with
        encoder := encoder
        thread := .holding frame (request.idrGeneration ≠ i.idrSeen) request }
  | refused (frame : FrameReady) (request : VideoRequest) (sync : Bool)
      (encoder : AmfVideoEncoder) (result : EncodeResult)
      (hthread : i.thread = .encoding frame request)
      (hencode : (i.retune request).encoder.encodeAcquire frame sync = (encoder, some result)) :
      Stepped i (.acquire sync) (({ i.retune request with encoder := encoder } :
        VideoIntake).concluded frame (request.idrGeneration ≠ i.idrSeen) request result)
  | released (frame : FrameReady) (forceIdr : Bool) (request : VideoRequest)
      (hthread : i.thread = .holding frame forceIdr request) :
      Stepped i .release { i with
        encoder := i.encoder.encodeRelease frame
        thread := .released frame forceIdr request }
  | finished (frame : FrameReady) (forceIdr : Bool) (request : VideoRequest) (env : EncodeEnv)
      (hthread : i.thread = .released frame forceIdr request) :
      Stepped i (.finish env) (({ i with
        encoder := (i.encoder.encodeRest frame forceIdr env).1 } : VideoIntake).concluded frame
          forceIdr request (i.encoder.encodeRest frame forceIdr env).2.1)
  | answered (frame : FrameReady) (hthread : i.thread = .answering frame true) :
      Stepped i .answer { i.pushDone frame doneEncoded with
        framesEncoded := i.framesEncoded + 1, thread := .waiting }
  | dropped (frame : FrameReady) (hthread : i.thread = .answering frame false) :
      Stepped i .answer { i.pushDone frame doneDropped with
        framesDropped := i.framesDropped + 1, thread := .waiting }

/-- Every step goes one of the ways. -/
theorem encoderStep_stepped {i i' : VideoIntake} {a : EncoderAction}
    (h : i.encoderStep a = some i') : Stepped i a i' := by
  cases a with
  | wake =>
    simp only [encoderStep] at h
    split at h
    · rename_i hthread
      split_ifs at h with hchanged hwoken
      · cases h
        exact .tear hthread hchanged
      · cases h
        exact .wake hthread hwoken
    · cases h
  | relock =>
    simp only [encoderStep] at h
    split at h
    · rename_i hthread
      cases h
      exact .relock hthread
    · cases h
  | readStaging =>
    simp only [encoderStep] at h
    split at h
    · rename_i frame hthread
      split at h
      · rename_i hstaging
        cases h
        exact .unstaged frame hthread hstaging
      · rename_i config hstaging
        cases h
        exact .staged frame config hthread hstaging
    · cases h
  | readRequest request =>
    simp only [encoderStep] at h
    split at h
    · rename_i frame config hthread
      split_ifs at h with hactive hcurrent
      · cases h
        exact .current frame config request hthread hactive hcurrent
      · cases h
        exact .rebuild frame config request hthread hactive hcurrent
      · cases h
        exact .inactive frame config request hthread (by simpa using hactive)
    · cases h
  | openSlot shared =>
    simp only [encoderStep] at h
    split at h
    · rename_i frame config request found hthread
      split_ifs at h with hroom
      cases h
      exact .opened frame config request found shared hthread hroom
    · cases h
  | configure machine =>
    simp only [encoderStep] at h
    split at h
    · rename_i frame config request found hthread
      split_ifs at h with hlength
      cases h
      exact .configured frame config request found machine hthread hlength
    · cases h
  | acquire sync =>
    simp only [encoderStep] at h
    split at h
    · rename_i frame request hthread
      split at h
      · rename_i encoder hencode
        cases h
        exact .acquired frame request sync encoder hthread hencode
      · rename_i encoder result hencode
        cases h
        exact .refused frame request sync encoder result hthread hencode
    · cases h
  | release =>
    simp only [encoderStep] at h
    split at h
    · rename_i frame forceIdr request hthread
      cases h
      exact .released frame forceIdr request hthread
    · cases h
  | finish env =>
    simp only [encoderStep] at h
    split at h
    · rename_i frame forceIdr request hthread
      cases h
      exact .finished frame forceIdr request env hthread
    · cases h
  | answer =>
    simp only [encoderStep] at h
    split at h
    · rename_i frame hthread
      cases h
      exact .answered frame hthread
    · rename_i frame hthread
      cases h
      exact .dropped frame hthread
    · cases h

/-! ## The pieces of a step -/

/-- Taking the waiting frame leaves the encoder alone. -/
@[simp] theorem takePending_encoder (i : VideoIntake) : i.takePending.encoder = i.encoder := by
  unfold takePending
  split <;> rfl

@[simp] theorem takePending_encoderReady (i : VideoIntake) :
    i.takePending.encoderReady = i.encoderReady := by
  unfold takePending
  split <;> rfl

@[simp] theorem takePending_encoderConfigGeneration (i : VideoIntake) :
    i.takePending.encoderConfigGeneration = i.encoderConfigGeneration := by
  unfold takePending
  split <;> rfl

@[simp] theorem takePending_idrSeen (i : VideoIntake) : i.takePending.idrSeen = i.idrSeen := by
  unfold takePending
  split <;> rfl

@[simp] theorem takePending_done (i : VideoIntake) : i.takePending.done = i.done := by
  unfold takePending
  split <;> rfl

theorem takePending_thread (i : VideoIntake) :
    i.takePending.thread = .waiting ∨ ∃ frame, i.takePending.thread = .taken frame := by
  unfold takePending
  split
  · exact .inl rfl
  · exact .inr ⟨_, rfl⟩

/-- Whatever `encode` answered, the frame is still in hand. -/
theorem concluded_keeps (i : VideoIntake) (frame : FrameReady) (forceIdr : Bool)
    (request : VideoRequest) (result : EncodeResult) :
    (i.concluded frame forceIdr request result).pending = i.pending ∧
      (i.concluded frame forceIdr request result).done = i.done ∧
      (i.concluded frame forceIdr request result).thread.frame? = some frame := by
  cases result <;> exact ⟨rfl, rfl, rfl⟩

theorem configured_keeps (i : VideoIntake) (machine : Machine) (frame : FrameReady)
    (config : StagingConfig) (request : VideoRequest) (found : List (Option SharedTexture)) :
    (i.configured machine frame config request found).pending = i.pending ∧
      (i.configured machine frame config request found).done = i.done ∧
      (i.configured machine frame config request found).thread.frame? = some frame := by
  unfold configured
  split <;> exact ⟨rfl, rfl, rfl⟩

/-- What a call came to: the thread only has the answer left, and the encoder is kept or
shut down. -/
theorem concluded_cases (i : VideoIntake) (frame : FrameReady) (forceIdr : Bool)
    (request : VideoRequest) (result : EncodeResult) :
    (i.concluded frame forceIdr request result).thread = .answering frame (result = .ok) ∧
      (i.concluded frame forceIdr request result).encoderConfigGeneration =
        i.encoderConfigGeneration ∧
      (result ≠ .ok → (i.concluded frame forceIdr request result).idrSeen = i.idrSeen) ∧
      ((i.concluded frame forceIdr request result).encoder = i.encoder ∧
          (i.concluded frame forceIdr request result).encoderReady = i.encoderReady ∨
        (i.concluded frame forceIdr request result).encoder = i.encoder.shutdown ∧
          (i.concluded frame forceIdr request result).encoderReady = false) := by
  cases result with
  | ok => exact ⟨rfl, rfl, fun hne => absurd rfl hne, .inl ⟨rfl, rfl⟩⟩
  | dropped => exact ⟨rfl, rfl, fun _ => rfl, .inl ⟨rfl, rfl⟩⟩
  | fatal => exact ⟨rfl, rfl, fun _ => rfl, .inr ⟨rfl, rfl⟩⟩

@[simp] theorem retune_pending (i : VideoIntake) (request : VideoRequest) :
    (i.retune request).pending = i.pending := by
  unfold retune
  split <;> rfl

@[simp] theorem retune_done (i : VideoIntake) (request : VideoRequest) :
    (i.retune request).done = i.done := by
  unfold retune
  split <;> rfl

@[simp] theorem retune_encoderReady (i : VideoIntake) (request : VideoRequest) :
    (i.retune request).encoderReady = i.encoderReady := by
  unfold retune
  split <;> rfl

@[simp] theorem retune_idrSeen (i : VideoIntake) (request : VideoRequest) :
    (i.retune request).idrSeen = i.idrSeen := by
  unfold retune
  split <;> rfl

@[simp] theorem retune_encoderConfigGeneration (i : VideoIntake) (request : VideoRequest) :
    (i.retune request).encoderConfigGeneration = i.encoderConfigGeneration := by
  unfold retune
  split <;> rfl

/-- A new target leaves what the components hold, and what they produce, alone. -/
theorem retune_encoder (i : VideoIntake) (request : VideoRequest) :
    (i.retune request).encoder.left.inside = i.encoder.left.inside ∧
      (i.retune request).encoder.right.inside = i.encoder.right.inside ∧
      (i.retune request).encoder.info = i.encoder.info := by
  have heye : ∀ (e : AmfStreamEncoder) (bps : ℕ), (e.setBitrate bps).inside = e.inside := by
    intro e bps
    unfold AmfStreamEncoder.setBitrate
    split <;> rfl
  unfold retune
  split
  · simp only [AmfVideoEncoder.setBitrate]
    split
    · exact ⟨rfl, rfl, rfl⟩
    · exact ⟨heye _ _, heye _ _, rfl⟩
  · exact ⟨rfl, rfl, rfl⟩

/-! ## The two halves of `encode` -/

/-- Up to the slot, `encode` touches the stage only, and never answers `ok`. -/
theorem encodeAcquire_cases (e : AmfVideoEncoder) (frame : FrameReady) (sync : Bool) :
    (e.encodeAcquire frame sync).1.left = e.left ∧
      (e.encodeAcquire frame sync).1.right = e.right ∧
      (e.encodeAcquire frame sync).1.info = e.info ∧
      (e.encodeAcquire frame sync).2 ≠ some .ok := by
  unfold AmfVideoEncoder.encodeAcquire
  split
  · exact ⟨rfl, rfl, rfl, by simp⟩
  · split
    · exact ⟨rfl, rfl, rfl, by simp⟩
    · rcases e.stage.acquire frame.stagingIndex sync with ⟨stage, got⟩
      cases got with
      | false => exact ⟨rfl, rfl, rfl, by simp⟩
      | true => exact ⟨rfl, rfl, rfl, by simp⟩

/-- Behind the slot, `encode` answers `ok` exactly when both eyes' outputs came out. -/
theorem encodeRest_ok (e : AmfVideoEncoder) (frame : FrameReady) (forceIdr : Bool)
    (env : EncodeEnv) :
    (e.encodeRest frame forceIdr env).1.info = e.info ∧
      ((e.encodeRest frame forceIdr env).2.1 = .ok ↔
        (e.encodeRest frame forceIdr env).2.2 ≠ none) := by
  unfold AmfVideoEncoder.encodeRest AmfVideoEncoder.finish
  dsimp only
  split_ifs
  · exact ⟨rfl, by simp⟩
  · split
    · exact ⟨rfl, by simp⟩
    · exact ⟨rfl, by simp⟩

end WivrnNx.VideoIntake
