import WivrnNx.Intake.KeyRequests

/-!
# The encoder is only used when it matches

The encoder thread keeps four things about the encoder it owns: whether it is ready, the
generation of the ring it was configured for, the generation of the parameters, and that
of the bitrate. Four ways lead through them: the staging changed, the request changed,
`configure` failed, `encode` failed.

- `EncoderUse`: bridge and intake, with what an observer of the encoder's calls knows;
- `Older`: what a copy of the request says about the bridge later on;
- `Inv`: a ready encoder is the live one, and published; `step_inv`;
- `encode_matches`: over every interleaving, whatever `configure` and `encode` answer.
-/

namespace WivrnNx

open Ipc

/-- The copy of `staging_` that the encoder thread works on. -/
def EncoderThread.config? : EncoderThread → Option StagingConfig
  | .staged _ config | .opening _ config _ _ => some config
  | _ => none

/-- The bridge and the intake, and what an observer of the encoder's calls knows. -/
structure EncoderUse where
  core : KeyRequests := {}
  /-- The copy of `staging_` that was made for the frame in hand. -/
  copied : Option StagingConfig := none
  /-- What the last `configure` was given, if it succeeded and there was no shutdown
  since. -/
  live : Option (StagingConfig × VideoRequest) := none
  /-- The bitrate that the encoder was given last, by `configure` or `set_bitrate`. -/
  bitrate : ℕ := 0
deriving DecidableEq, Repr

namespace EncoderUse

open KeyRequests

/-- The encoder's parameters but the bitrate. -/
def SameParameters (r r' : VideoRequest) : Prop :=
  r.refreshHz = r'.refreshHz ∧ r.allowH265 = r'.allowH265 ∧ r.allowH264 = r'.allowH264

instance (r r' : VideoRequest) : Decidable (SameParameters r r') :=
  inferInstanceAs (Decidable (_ ∧ _))

/-- `set_prefs` is for the start, before any client. Between `configure` and `shutdown`
an encoder's `stream_info` is one. -/
def permitted (s : EncoderUse) : Event → Bool
  | .setPrefs _ _ _ => false
  | .encode encoder | .release encoder | .returned encoder _ =>
    encoder.info = s.core.intake.encoder.info
  | _ => true

/-- `shutdown`, and the stream is no longer valid. -/
def shut (s : EncoderUse) (core : KeyRequests) : EncoderUse :=
  { s with
    core := { core with bridge := core.bridge.publishStream {} false }
    live := none }

/-- What an event that leaves `core` behind calls, and what it publishes. -/
def observed (s : EncoderUse) (core : KeyRequests) : Event → EncoderUse
  | .readStaging => { s with core := core, copied := s.core.intake.staging }
  | .relock => s.shut core
  | .readRequest =>
    -- `ensure_encoder` shuts an encoder that is ready, but for something else
    if s.core.intake.encoderReady ∧ ¬ core.intake.encoderReady then s.shut core
    else { s with core := core }
  | .configure answer =>
    match s.core.intake.thread with
    | .opening _ config request _ =>
      if answer.2 then
        { s with
          core := { core with bridge := core.bridge.publishStream answer.1.info true }
          live := some (config, request), bitrate := request.bitrateBps }
      else { s with core := core, live := none, bitrate := request.bitrateBps }
    | _ => { s with core := core }
  | .encode _ =>
    match s.core.intake.thread with
    | .encoding _ request =>
      if request.bitrateGeneration ≠ s.core.intake.bitrateSeen then
        { s with core := core, bitrate := request.bitrateBps }
      else { s with core := core }
    | _ => { s with core := core }
  | .returned _ .fatal => s.shut core
  | _ => { s with core := core }

def step (s : EncoderUse) (e : Event) : Option EncoderUse :=
  if s.permitted e then (KeyRequests.step s.core e).map fun core => s.observed core e else none

/-- What holds when `encode` is called: `s` is the state before the call, `s'` behind it. -/
def EncodeMatches (s : EncoderUse) (e : Event) (s' : EncoderUse) : Prop :=
  ∀ encoder frame request, e = .encode encoder →
    s.core.intake.thread = .encoding frame request →
    ∃ config r copied, s.live = some (config, r) ∧ s.copied = some copied ∧
      config.generation = copied.generation ∧
      r.configGeneration = request.configGeneration ∧ SameParameters r request ∧
      s.core.bridge.stream.valid = true ∧
      s.core.bridge.stream.info = s.core.intake.encoder.info ∧
      s'.bitrate = request.bitrateBps

/-! ## Copies of the request -/

/-- A request that the bridge had, next to the one it has now. -/
structure Older (r b : VideoRequest) : Prop where
  config : r.configGeneration ≤ b.configGeneration
  parameters : r.configGeneration = b.configGeneration → SameParameters r b
  bitrate : r.bitrateGeneration ≤ b.bitrateGeneration
  target : r.bitrateGeneration = b.bitrateGeneration → r.bitrateBps = b.bitrateBps

theorem Older.refl (r : VideoRequest) : Older r r :=
  ⟨le_rfl, fun _ => ⟨rfl, rfl, rfl⟩, le_rfl, fun _ => rfl⟩

theorem Older.trans {r b c : VideoRequest} (h : Older r b) (h' : Older b c) : Older r c := by
  have hconfig := h.config
  have hconfig' := h'.config
  have hbitrate := h.bitrate
  have hbitrate' := h'.bitrate
  constructor
  · omega
  · intro heq
    rcases h.parameters (by omega) with ⟨h1, h2, h3⟩
    rcases h'.parameters (by omega) with ⟨h1', h2', h3'⟩
    exact ⟨h1.trans h1', h2.trans h2', h3.trans h3'⟩
  · omega
  · intro heq
    exact (h.target (by omega)).trans (h'.target (by omega))

theorem older_setBitrate (b : VideoBridge) (bps : ℕ) :
    Older b.request (b.setBitrate bps).request := by
  unfold VideoBridge.setBitrate
  split
  · exact .refl _
  · constructor
    · exact le_rfl
    · exact fun _ => ⟨rfl, rfl, rfl⟩
    · exact Nat.le_succ _
    · intro heq
      exact absurd heq (Nat.succ_ne_self _).symm

theorem older_clearClient (b : VideoBridge) : Older b.request b.clearClient.request := by
  unfold VideoBridge.clearClient
  split
  · exact .refl _
  · exact ⟨le_rfl, fun _ => ⟨rfl, rfl, rfl⟩, le_rfl, fun _ => rfl⟩

theorem older_requestIdr (b : VideoBridge) : Older b.request b.requestIdr.request :=
  ⟨le_rfl, fun _ => ⟨rfl, rfl, rfl⟩, le_rfl, fun _ => rfl⟩

theorem older_setClient (b : VideoBridge) (hz : Flt) (h265 h264 : Bool) :
    Older b.request (b.setClient hz h265 h264).request := by
  constructor
  · exact (b.setClient_generations hz h265 h264).1
  · -- The generation stays where nothing but the bitrate may have changed
    intro heq
    have hsame : ¬ b.clientChanged hz h265 h264 = true := by
      intro hchanged
      simp only [VideoBridge.setClient, if_pos hchanged] at heq
      omega
    simp only [VideoBridge.clientChanged, Bool.or_eq_true, Bool.not_eq_true', not_or,
      bne_iff_ne, ne_eq, not_not, Bool.not_eq_false] at hsame
    rcases hsame with ⟨⟨-, hhz⟩, hallowed⟩
    have hrefresh : b.request.refreshHz = hz := by
      revert hhz
      generalize b.request.refreshHz = old
      cases old <;> simp [Flt.beq]
    exact ⟨hrefresh, congrArg Prod.fst hallowed, congrArg Prod.snd hallowed⟩
  · simp only [VideoBridge.setClient]
    split
    · exact Nat.le_succ _
    · exact le_rfl
  · intro heq
    simp only [VideoBridge.setClient] at heq ⊢
    split at heq
    · omega
    · rename_i hsame
      exact not_not.mp hsame

/-! ## Invariant -/

/-- An encoder configured with `config` for the request `r`, whose bitrate is the one of
`tuned`. -/
structure Matched (s : EncoderUse) (config : StagingConfig) (r tuned : VideoRequest) : Prop where
  live : s.live = some (config, r)
  generation : s.core.intake.encoderGeneration = config.generation
  configGeneration : s.core.intake.encoderConfigGeneration = r.configGeneration
  bitrateSeen : s.core.intake.bitrateSeen = tuned.bitrateGeneration
  bitrate : s.bitrate = tuned.bitrateBps
  older : Older r s.core.bridge.request
  olderTuned : Older tuned s.core.bridge.request
  valid : s.core.bridge.stream.valid = true
  info : s.core.bridge.stream.info = s.core.intake.encoder.info

/-- The encoder is the one that `request` needs, up to a bitrate that has moved. -/
structure Fits (s : EncoderUse) (request : VideoRequest) : Prop where
  ready : s.core.intake.encoderReady = true
  live : ∃ config r copied, s.live = some (config, r) ∧ s.copied = some copied ∧
    config.generation = copied.generation ∧ r.configGeneration = request.configGeneration ∧
    SameParameters r request
  bitrate : s.core.intake.bitrateSeen = request.bitrateGeneration →
    s.bitrate = request.bitrateBps

/-- What the cached generations are worth. -/
structure Inv (s : EncoderUse) : Prop where
  ready : s.core.intake.encoderReady = true → ∃ config r tuned, s.Matched config r tuned
  working : ∀ r, s.core.intake.thread.request? = some r → Older r s.core.bridge.request
  copied : ∀ config, s.core.intake.thread.config? = some config → s.copied = some config
  encoding : ∀ frame r, s.core.intake.thread = .encoding frame r → s.Fits r
  /-- `configure` is never called over an encoder that is ready. -/
  closed : ∀ frame config r found, s.core.intake.thread = .opening frame config r found →
    s.core.intake.encoderReady = false

/-- The encoder thread's record of the encoder, and the encoder's stream. -/
structure SameEncoder (i i' : VideoIntake) : Prop where
  ready : i'.encoderReady = i.encoderReady
  generation : i'.encoderGeneration = i.encoderGeneration
  configGeneration : i'.encoderConfigGeneration = i.encoderConfigGeneration
  bitrateSeen : i'.bitrateSeen = i.bitrateSeen
  info : i'.encoder.info = i.encoder.info

/-- A step that touches neither the record nor the encoder. -/
theorem Inv.kept {s s' : EncoderUse} (h : s.Inv) (hsame : SameEncoder s.core.intake s'.core.intake)
    (hlive : s'.live = s.live) (hbitrate : s'.bitrate = s.bitrate)
    (holder : Older s.core.bridge.request s'.core.bridge.request)
    (hstream : s'.core.bridge.stream = s.core.bridge.stream) :
    s'.core.intake.encoderReady = true → ∃ config r tuned, s'.Matched config r tuned := by
  intro hready
  rw [hsame.ready] at hready
  rcases h.ready hready with ⟨config, r, tuned, hm⟩
  refine ⟨config, r, tuned, ?_⟩
  constructor
  · rw [hlive]
    exact hm.live
  · rw [hsame.generation]
    exact hm.generation
  · rw [hsame.configGeneration]
    exact hm.configGeneration
  · rw [hsame.bitrateSeen]
    exact hm.bitrateSeen
  · rw [hbitrate]
    exact hm.bitrate
  · exact hm.older.trans holder
  · exact hm.olderTuned.trans holder
  · rw [hstream]
    exact hm.valid
  · rw [hstream, hsame.info]
    exact hm.info

/-- A step of another thread. -/
theorem Inv.elsewhere {s : EncoderUse} (h : s.Inv) (core : KeyRequests)
    (hsame : SameEncoder s.core.intake core.intake)
    (hthread : core.intake.thread = s.core.intake.thread)
    (holder : Older s.core.bridge.request core.bridge.request)
    (hstream : core.bridge.stream = s.core.bridge.stream) :
    ({ s with core := core } : EncoderUse).Inv := by
  constructor
  · exact h.kept hsame rfl rfl holder hstream
  · intro r hr
    rw [show _ = _ from hthread] at hr
    exact (h.working r hr).trans holder
  · intro config hconfig
    rw [show _ = _ from hthread] at hconfig
    exact h.copied config hconfig
  · intro frame r hr
    rw [show _ = _ from hthread] at hr
    have hfits := h.encoding frame r hr
    constructor
    · exact hsame.ready.trans hfits.ready
    · exact hfits.live
    · intro hseen
      exact hfits.bitrate (hsame.bitrateSeen.symm.trans hseen)
  · intro frame config r found hr
    rw [show _ = _ from hthread] at hr
    exact hsame.ready.trans (h.closed frame config r found hr)

theorem onStagingConfig_same (i : VideoIntake) (config : StagingConfig) :
    SameEncoder i (i.onStagingConfig config) := by
  unfold VideoIntake.onStagingConfig VideoIntake.dropOther
  split
  · exact ⟨rfl, rfl, rfl, rfl, rfl⟩
  · split <;> exact ⟨rfl, rfl, rfl, rfl, rfl⟩

theorem onFrameReady_same (i : VideoIntake) (active : Bool) (frame : FrameReady) :
    SameEncoder i (i.onFrameReady active frame) := by
  unfold VideoIntake.onFrameReady VideoIntake.accept VideoIntake.supersede
  dsimp only
  split
  · exact ⟨rfl, rfl, rfl, rfl, rfl⟩
  · split
    · exact ⟨rfl, rfl, rfl, rfl, rfl⟩
    · split <;> exact ⟨rfl, rfl, rfl, rfl, rfl⟩

/-- With no encoder that is ready there is nothing to match. -/
theorem Inv.unready {s : EncoderUse} (hready : s.core.intake.encoderReady = false)
    (hworking : ∀ r, s.core.intake.thread.request? = some r → Older r s.core.bridge.request)
    (hcopied : ∀ config, s.core.intake.thread.config? = some config → s.copied = some config)
    (hencoding : s.core.intake.thread.isEncoding = false) : s.Inv := by
  constructor
  · intro h
    rw [hready] at h
    cases h
  · exact hworking
  · exact hcopied
  · intro frame r hr
    rw [hr] at hencoding
    cases hencoding
  · exact fun _ _ _ _ _ => hready

theorem takePending_same (i : VideoIntake) : SameEncoder i i.takePending := by
  unfold VideoIntake.takePending
  split <;> exact ⟨rfl, rfl, rfl, rfl, rfl⟩

theorem takePending_config? (i : VideoIntake) : i.takePending.thread.config? = none := by
  rcases i.takePending_thread with hthread | ⟨frame, hthread⟩
  · rw [hthread]
    rfl
  · rw [hthread]
    rfl

/-- A thread that is in no round, or behind the copies of one. -/
theorem Inv.of_thread {s : EncoderUse}
    (hmatched : s.core.intake.encoderReady = true → ∃ config r tuned, s.Matched config r tuned)
    (hworking : ∀ r, s.core.intake.thread.request? = some r → Older r s.core.bridge.request)
    (hconfig : s.core.intake.thread.config? = none)
    (hencoding : s.core.intake.thread.isEncoding = false) : s.Inv := by
  constructor
  · exact hmatched
  · exact hworking
  · intro config hc
    rw [hconfig] at hc
    cases hc
  · intro frame r hr
    rw [hr] at hencoding
    cases hencoding
  · intro frame config r found hr
    rw [hr] at hconfig
    cases hconfig

/-- The encoder is gone, and with it the frame. -/
theorem Inv.gone {s : EncoderUse} (hready : s.core.intake.encoderReady = false)
    (hrequest : s.core.intake.thread.request? = none)
    (hconfig : s.core.intake.thread.config? = none)
    (hencoding : s.core.intake.thread.isEncoding = false) : s.Inv := by
  refine .of_thread ?_ ?_ hconfig hencoding
  · intro h
    rw [hready] at h
    cases h
  · intro r hr
    rw [hrequest] at hr
    cases hr

/-- The thread lets go of the frame, or of what it knows about it. -/
theorem Inv.idle {s : EncoderUse} (h : s.Inv) {i : VideoIntake}
    (hsame : SameEncoder s.core.intake i) (hrequest : i.thread.request? = none)
    (hconfig : i.thread.config? = none) (hencoding : i.thread.isEncoding = false) :
    ({ s with core := { s.core with intake := i } } : EncoderUse).Inv := by
  refine .of_thread (h.kept hsame rfl rfl (.refl _) rfl) ?_ hconfig hencoding
  intro r hr
  rw [show _ = _ from hrequest] at hr
  cases hr

/-- A step is one of the hand-off's, with what is observed of it. -/
theorem step_observed {s s' : EncoderUse} {e : Event} (h : step s e = some s') :
    s.permitted e = true ∧ ∃ core, KeyRequests.step s.core e = some core ∧
      s' = s.observed core e := by
  unfold step at h
  split at h
  · rename_i hpermitted
    rcases Option.map_eq_some_iff.mp h with ⟨core, hcore, rfl⟩
    exact ⟨hpermitted, core, hcore, rfl⟩
  · cases h

/-- A step of the encoder thread that calls nothing but `shutdown`. -/
theorem thread_stepped {s core : KeyRequests} {a : VideoIntake.EncoderAction}
    (h : s.thread a = some core) :
    ∃ i, s.intake.Stepped a i ∧ core = { s with intake := i } := by
  rcases Option.map_eq_some_iff.mp h with ⟨i, hi, rfl⟩
  exact ⟨i, VideoIntake.encoderStep_stepped hi, rfl⟩

theorem bridge_inv {s : EncoderUse} (h : s.Inv) {b : VideoBridge}
    (holder : Older s.core.bridge.request b.request) (hstream : b.stream = s.core.bridge.stream) :
    ({ s with core := { s.core with bridge := b } } : EncoderUse).Inv :=
  h.elsewhere { s.core with bridge := b } ⟨rfl, rfl, rfl, rfl, rfl⟩ rfl holder hstream

theorem wake_inv {s : EncoderUse} (h : s.Inv) {i : VideoIntake} (hs : s.core.intake.Stepped .wake i) :
    ({ s with core := { s.core with intake := i } } : EncoderUse).Inv := by
  cases hs with
  | tear => exact h.idle ⟨rfl, rfl, rfl, rfl, rfl⟩ rfl rfl rfl
  | wake =>
    rcases VideoIntake.takePending_idle { s.core.intake with stagingChanged := false } with
      ⟨hrequest, -, hencoding⟩
    have hsame := takePending_same { s.core.intake with stagingChanged := false }
    exact h.idle ⟨hsame.ready, hsame.generation, hsame.configGeneration, hsame.bitrateSeen,
      hsame.info⟩ hrequest (takePending_config? _) hencoding

theorem relock_inv {s : EncoderUse} {i : VideoIntake} (hs : s.core.intake.Stepped .relock i) :
    (s.shut { s.core with intake := i }).Inv := by
  cases hs with
  | relock =>
    have hidle := VideoIntake.takePending_idle
      { s.core.intake.shutdownEncoder with encoderGeneration := 0 }
    exact .gone (takePending_same _).ready hidle.1 (takePending_config? _) hidle.2.2

/-- The copy of the staging. -/
theorem readStaging_inv {s : EncoderUse} (h : s.Inv) {i : VideoIntake}
    (hs : s.core.intake.Stepped .readStaging i) :
    ({ s with core := { s.core with intake := i }, copied := s.core.intake.staging } :
      EncoderUse).Inv := by
  cases hs with
  | unstaged =>
    refine .of_thread (h.kept ⟨rfl, rfl, rfl, rfl, rfl⟩ rfl rfl (.refl _) rfl) ?_ rfl rfl
    intro r hr
    cases hr
  | staged frame config hthread hstaging =>
    constructor
    · exact h.kept ⟨rfl, rfl, rfl, rfl, rfl⟩ rfl rfl (.refl _) rfl
    · intro r hr
      cases hr
    · intro config' hconfig
      cases hconfig
      exact hstaging
    · intro frame r hr
      cases hr
    · intro frame config r found hr
      cases hr

/-- The copy of the request: the encoder is what it needs, or is shut down. -/
theorem readRequest_inv {s : EncoderUse} (h : s.Inv) {i : VideoIntake}
    (hs : s.core.intake.Stepped (.readRequest s.core.bridge.request) i) :
    (s.observed { s.core with intake := i } .readRequest).Inv := by
  cases hs with
  | inactive =>
    simp only [observed, and_not_self, if_false]
    exact h.idle ⟨rfl, rfl, rfl, rfl, rfl⟩ rfl rfl rfl
  | current frame config _ hthread _ hcurrent =>
    simp only [observed, and_not_self, if_false]
    simp only [VideoIntake.upToDate, Bool.decide_and, Bool.and_eq_true, decide_eq_true_eq]
      at hcurrent
    rcases hcurrent with ⟨hready, hgeneration, hconfigGeneration⟩
    rcases h.ready hready with ⟨ring, r, tuned, hm⟩
    constructor
    · exact h.kept ⟨rfl, rfl, rfl, rfl, rfl⟩ rfl rfl (.refl _) rfl
    · intro r' hr
      cases hr
      exact .refl _
    · intro config' hconfig
      cases hconfig
    · intro frame' r' hr
      cases hr
      have hconfig : r.configGeneration = s.core.bridge.request.configGeneration :=
        hm.configGeneration.symm.trans hconfigGeneration
      constructor
      · exact hready
      · refine ⟨ring, r, config, hm.live, ?_, hm.generation.symm.trans hgeneration, hconfig,
          hm.older.parameters hconfig⟩
        exact h.copied config (by rw [hthread]; rfl)
      · intro hseen
        exact hm.bitrate.trans (hm.olderTuned.target (hm.bitrateSeen.symm.trans hseen))
    · intro frame' config' r' found hr
      cases hr
  | rebuild frame config _ hthread =>
    have hworking : ∀ r, some s.core.bridge.request = some r → Older r s.core.bridge.request := by
      intro r hr
      cases hr
      exact .refl _
    have hcopied : ∀ config', some config = some config' → s.copied = some config' := by
      intro config' hconfig
      cases hconfig
      exact h.copied config (by rw [hthread]; rfl)
    simp only [observed]
    split
    · refine .unready rfl ?_ hcopied rfl
      intro r hr
      rw [shut, VideoBridge.publishStream_request]
      exact hworking r hr
    · exact .unready rfl hworking hcopied rfl

/-- What is published is what the bridge then has. -/
theorem publishStream_stream (b : VideoBridge) (info : EncoderStreamInfo) (valid : Bool) :
    (b.publishStream info valid).stream.valid = valid ∧
      (b.publishStream info valid).stream.info = info := by
  unfold VideoBridge.publishStream
  split
  · rename_i hsame
    exact hsame
  · exact ⟨rfl, rfl⟩

/-- `configure` has answered. -/
theorem configure_inv {s : EncoderUse} (h : s.Inv) {core : KeyRequests}
    {answer : AmfVideoEncoder × Bool}
    (hs : KeyRequests.step s.core (.configure answer) = some core) :
    (s.observed core (.configure answer)).Inv := by
  simp only [KeyRequests.step] at hs
  split at hs
  · rename_i frame config request found hthread
    have holder : Older request s.core.bridge.request := h.working request (by rw [hthread]; rfl)
    have hcopied : s.copied = some config := h.copied config (by rw [hthread]; rfl)
    have hclosed := h.closed frame config request found hthread
    cases hs
    rcases answer with ⟨encoder, ok⟩
    cases ok with
    | false =>
      -- Refused: `encoder_ready_` stays as `ensure_encoder` has left it
      simp only [observed, hthread, Bool.false_eq_true, if_false]
      exact .gone hclosed rfl rfl rfl
    | true =>
      simp only [observed, hthread, if_true]
      have hrequest := VideoBridge.publishStream_request s.core.bridge encoder.info true
      have hstream := publishStream_stream s.core.bridge encoder.info true
      constructor
      · intro _
        refine ⟨config, request, request, rfl, rfl, rfl, rfl, rfl, ?_, ?_, hstream.1, hstream.2⟩
        · show Older request (s.core.bridge.publishStream encoder.info true).request
          rw [hrequest]
          exact holder
        · show Older request (s.core.bridge.publishStream encoder.info true).request
          rw [hrequest]
          exact holder
      · intro r hr
        cases hr
        show Older request (s.core.bridge.publishStream encoder.info true).request
        rw [hrequest]
        exact holder
      · intro config' hconfig
        cases hconfig
      · intro frame' r hr
        cases hr
        exact ⟨rfl, ⟨config, request, config, rfl, hcopied, rfl, rfl, rfl, rfl, rfl⟩, fun _ => rfl⟩
      · intro frame' config' r found' hr
        cases hr
  · cases hs

/-- `encode` is called: a bitrate that has moved was handed over before. -/
theorem encode_inv {s : EncoderUse} (h : s.Inv) {core : KeyRequests} {encoder : AmfVideoEncoder}
    (hinfo : encoder.info = s.core.intake.encoder.info)
    (hs : KeyRequests.step s.core (.encode encoder) = some core) :
    (s.observed core (.encode encoder)).Inv := by
  simp only [KeyRequests.step] at hs
  split at hs
  · rename_i frame request hthread
    have holder : Older request s.core.bridge.request := h.working request (by rw [hthread]; rfl)
    have hready := (h.encoding frame request hthread).ready
    rcases h.ready hready with ⟨config, r, tuned, hm⟩
    have hworking : ∀ r', some request = some r' → Older r' s.core.bridge.request := by
      intro r' hr
      cases hr
      exact holder
    cases hs
    simp only [observed, hthread, VideoIntake.retune]
    split
    · exact .of_thread (fun _ => ⟨config, r, request, hm.live, hm.generation, hm.configGeneration,
        rfl, rfl, hm.older, holder, hm.valid, hm.info.trans hinfo.symm⟩) hworking rfl rfl
    · exact .of_thread (fun _ => ⟨config, r, tuned, hm.live, hm.generation, hm.configGeneration,
        hm.bitrateSeen, hm.bitrate, hm.older, hm.olderTuned, hm.valid, hm.info.trans hinfo.symm⟩)
        hworking rfl rfl
  · cases hs

theorem release_inv {s : EncoderUse} (h : s.Inv) {core : KeyRequests} {encoder : AmfVideoEncoder}
    (hinfo : encoder.info = s.core.intake.encoder.info)
    (hs : KeyRequests.step s.core (.release encoder) = some core) :
    ({ s with core := core } : EncoderUse).Inv := by
  simp only [KeyRequests.step] at hs
  split at hs
  · rename_i frame forceIdr request hthread
    cases hs
    refine .of_thread (h.kept ⟨rfl, rfl, rfl, rfl, hinfo⟩ rfl rfl (.refl _) rfl) ?_ rfl rfl
    intro r hr
    exact h.working r (by rw [hthread]; exact hr)
  · cases hs

/-- `encode` has returned: a fatal answer shuts the encoder down. -/
theorem returned_inv {s : EncoderUse} (h : s.Inv) {core : KeyRequests} {encoder : AmfVideoEncoder}
    {result : EncodeResult} (hinfo : encoder.info = s.core.intake.encoder.info)
    (hs : KeyRequests.step s.core (.returned encoder result) = some core) :
    (s.observed core (.returned encoder result)).Inv := by
  have hconclude : ∀ frame forceIdr request,
      (s.observed (s.core.conclude encoder frame forceIdr request result)
        (.returned encoder result)).Inv := by
    intro frame forceIdr request
    cases result with
    | ok | dropped =>
      refine .of_thread (h.kept ⟨rfl, rfl, rfl, rfl, hinfo⟩ rfl rfl (.refl _) rfl) ?_ rfl rfl
      intro r hr
      cases hr
    | fatal => exact .gone rfl rfl rfl rfl
  simp only [KeyRequests.step] at hs
  split at hs
  · cases hs
    exact hconclude _ _ _
  · cases hs
    exact hconclude _ _ _
  · cases hs

theorem step_inv (s : EncoderUse) (e : Event) (s' : EncoderUse) (h : s.Inv)
    (hs : step s e = some s') : s'.Inv := by
  rcases step_observed hs with ⟨hpermitted, core, hcore, rfl⟩
  cases e with
  | setPrefs => cases hpermitted
  | setClient hz h265 h264 =>
    cases hcore
    exact bridge_inv h (older_setClient _ hz h265 h264) rfl
  | clearClient =>
    cases hcore
    refine bridge_inv h (older_clearClient _) ?_
    unfold VideoBridge.clearClient
    split <;> rfl
  | setBitrate bps =>
    cases hcore
    refine bridge_inv h (older_setBitrate _ bps) ?_
    unfold VideoBridge.setBitrate
    split <;> rfl
  | requestIdr =>
    cases hcore
    exact bridge_inv h (older_requestIdr _) rfl
  | stagingConfig config =>
    cases hcore
    exact h.elsewhere { s.core with intake := s.core.intake.onStagingConfig config }
      (onStagingConfig_same _ config) (onStagingConfig_thread _ config).2 (.refl _) rfl
  | frameReady frame =>
    cases hcore
    exact h.elsewhere { s.core with
        intake := s.core.intake.onFrameReady s.core.bridge.request.active frame }
      (onFrameReady_same _ _ frame) (onFrameReady_thread _ _ frame).2 (.refl _) rfl
  | shimGone =>
    cases hcore
    exact h.elsewhere { s.core with intake := s.core.intake.onShimGone }
      ⟨rfl, rfl, rfl, rfl, rfl⟩ rfl (.refl _) rfl
  | popDone =>
    rcases Option.map_eq_some_iff.mp hcore with ⟨⟨d, i⟩, hpop, rfl⟩
    unfold VideoIntake.popDone at hpop
    split at hpop
    · cases hpop
    · cases hpop
      exact h.elsewhere { s.core with intake := { s.core.intake with done := _ } }
        ⟨rfl, rfl, rfl, rfl, rfl⟩ rfl (.refl _) rfl
  | wake =>
    rcases thread_stepped hcore with ⟨i, hi, rfl⟩
    exact wake_inv h hi
  | relock =>
    rcases thread_stepped hcore with ⟨i, hi, rfl⟩
    exact relock_inv hi
  | readStaging =>
    rcases thread_stepped hcore with ⟨i, hi, rfl⟩
    exact readStaging_inv h hi
  | readRequest =>
    rcases thread_stepped hcore with ⟨i, hi, rfl⟩
    exact readRequest_inv h hi
  | openSlot shared =>
    rcases thread_stepped hcore with ⟨i, hi, rfl⟩
    cases hi with
    | opened frame config request found _ hthread =>
      have hclosed := h.closed frame config request found hthread
      refine .unready hclosed ?_ ?_ rfl
      · intro r hr
        exact h.working r (by rw [hthread]; exact hr)
      · intro config' hconfig
        exact h.copied config' (by rw [hthread]; exact hconfig)
  | configure answer => exact configure_inv h hcore
  | encode encoder => exact encode_inv h (by simpa [permitted] using hpermitted) hcore
  | release encoder => exact release_inv h (by simpa [permitted] using hpermitted) hcore
  | returned encoder result => exact returned_inv h (by simpa [permitted] using hpermitted) hcore
  | answer =>
    rcases thread_stepped hcore with ⟨i, hi, rfl⟩
    cases hi with
    | answered => exact h.idle ⟨rfl, rfl, rfl, rfl, rfl⟩ rfl rfl rfl
    | dropped => exact h.idle ⟨rfl, rfl, rfl, rfl, rfl⟩ rfl rfl rfl

/-- At a call of `encode`. -/
theorem encode_step {s s' : EncoderUse} {e : Event} (h : s.Inv) (hs : step s e = some s') :
    EncodeMatches s e s' := by
  rintro encoder frame request rfl hthread
  rcases step_observed hs with ⟨-, core, -, rfl⟩
  have hfits := h.encoding frame request hthread
  rcases h.ready hfits.ready with ⟨config, r, tuned, hm⟩
  rcases hfits.live with ⟨config, r, copied, hlive, hcopied, hgeneration, hconfig, hsame⟩
  refine ⟨config, r, copied, hlive, hcopied, hgeneration, hconfig, hsame, hm.valid, hm.info, ?_⟩
  simp only [observed, hthread]
  split
  · rfl
  · rename_i hseen
    exact hfits.bitrate (not_not.mp hseen).symm

/-- Before anything has connected, with the command line's preferences. -/
def start (bitrateBps codec : ℕ) (adaptive : Bool) : EncoderUse :=
  { core := { bridge := ({} : VideoBridge).setPrefs bitrateBps codec adaptive } }

theorem start_inv (bitrateBps codec : ℕ) (adaptive : Bool) : (start bitrateBps codec adaptive).Inv :=
  .unready rfl (by intro r hr; cases hr) (by intro config hconfig; cases hconfig) rfl

/-- Whatever the session, the shim and the encoder's answers are, and in whatever order:
`encode` is called on an encoder that matches the frame's ring, the request and the
stream that was published. -/
theorem encode_matches (bitrateBps codec : ℕ) (adaptive : Bool) (es : List Event) :
    Runs.Along step EncodeMatches (start bitrateBps codec adaptive) es := by
  refine Runs.along_of_invariant step_inv ?_ es _ (start_inv bitrateBps codec adaptive)
  intro s e s' h hs
  exact encode_step h hs

/-! ## The components' own answers -/

theorem observed_intake (s : EncoderUse) (core : KeyRequests) (e : Event) :
    (s.observed core e).core.intake = core.intake := by
  unfold observed
  split
  · rfl
  · rfl
  · split <;> rfl
  · split
    · split <;> rfl
    · rfl
  · split
    · split <;> rfl
    · rfl
  · rfl
  · rfl

/-- One event, if it is permitted and one of the hand-off's. -/
theorem step_event {s : EncoderUse} {e : Event} {core : KeyRequests}
    (hpermitted : s.permitted e = true) (hcore : KeyRequests.step s.core e = some core) :
    step s e = some (s.observed core e) := by
  rw [step, if_pos hpermitted, hcore]
  rfl

theorem run_event {s : EncoderUse} {e : Event} {core : KeyRequests}
    (hpermitted : s.permitted e = true) (hcore : KeyRequests.step s.core e = some core) :
    ∃ s', Runs.run step s [e] = some s' ∧ s'.core.intake = core.intake := by
  refine ⟨s.observed core e, ?_, observed_intake s core e⟩
  rw [Runs.run_cons, step_event hpermitted hcore]
  rfl

/-- The components leave `stream_info` alone between `configure` and `shutdown`: what the
thread does with them is a run of the same steps. -/
theorem encoderStep_used {s : EncoderUse} {i : VideoIntake} {a : VideoIntake.EncoderAction}
    (hread : ∀ r, a = .readRequest r → r = s.core.bridge.request)
    (h : s.core.intake.encoderStep a = some i) :
    ∃ s', Runs.run step s (answers s.core.intake a) = some s' ∧ s'.core.intake = i := by
  have hstepped := VideoIntake.encoderStep_stepped h
  -- A step without a call is one of the thread's own
  have hown : ∀ e, s.permitted e = true → KeyRequests.step s.core e = s.core.thread a →
      ∃ s', Runs.run step s [e] = some s' ∧ s'.core.intake = i := by
    intro e hpermitted hcore
    exact run_event hpermitted (hcore.trans (by rw [KeyRequests.thread, h]; rfl))
  cases a with
  | wake => exact hown .wake rfl rfl
  | relock => exact hown .relock rfl rfl
  | readStaging => exact hown .readStaging rfl rfl
  | readRequest request =>
    have hrequest := hread request rfl
    subst hrequest
    exact hown .readRequest rfl rfl
  | openSlot shared => exact hown (.openSlot shared) rfl rfl
  | answer => exact hown .answer rfl rfl
  | configure machine =>
    cases hstepped with
    | configured frame config request found _ hthread =>
      rw [VideoIntake.configured_ensured]
      simp only [answers, hthread]
      have hcore : ∀ answer, KeyRequests.step s.core (.configure answer) = some { s.core with
          intake := s.core.intake.ensured answer frame config request found
          encoders := if answer.2 then s.core.encoders + 1 else s.core.encoders } := by
        intro answer
        rw [KeyRequests.step, hthread]
      exact run_event (e := .configure _) rfl (hcore _)
  | acquire sync =>
    have hkept : ∀ frame request, ((s.core.intake.retune request).encoder.encodeAcquire frame
        sync).1.info = s.core.intake.encoder.info :=
      fun frame request => (VideoIntake.encodeAcquire_cases _ _ _).2.2.1.trans
        (s.core.intake.retune_encoder request).2.2
    cases hstepped with
    | acquired frame request _ encoder hthread hencode =>
      have hinfo := hkept frame request
      rw [hencode] at hinfo
      simp only [answers, hthread, hencode]
      have hcore : KeyRequests.step s.core (.encode encoder) = some { s.core with
          intake := { s.core.intake.retune request with
            encoder := encoder
            thread := .holding frame (request.idrGeneration ≠ s.core.intake.idrSeen) request } } := by
        rw [KeyRequests.step, hthread]
      exact run_event (e := .encode encoder) (by simpa [permitted] using hinfo) hcore
    | refused frame request _ encoder result hthread hencode =>
      have hinfo := hkept frame request
      rw [hencode] at hinfo
      simp only [answers, hthread, hencode]
      have hcore : KeyRequests.step s.core (.encode encoder) = some { s.core with
          intake := { s.core.intake.retune request with
            encoder := encoder
            thread := .holding frame (request.idrGeneration ≠ s.core.intake.idrSeen) request } } := by
        rw [KeyRequests.step, hthread]
      rw [Runs.run_cons, step_event (by simpa [permitted] using hinfo) hcore, Option.bind_some]
      -- Refused at the slot: the call returns at once, with the encoder it left
      have hintake := observed_intake s { s.core with
        intake := { s.core.intake.retune request with
          encoder := encoder
          thread := .holding frame (request.idrGeneration ≠ s.core.intake.idrSeen) request } }
        (.encode encoder)
      generalize s.observed _ (.encode encoder) = m at *
      have hreturned : KeyRequests.step m.core (.returned encoder result) =
          some (m.core.conclude encoder frame (request.idrGeneration ≠ s.core.intake.idrSeen)
            request result) := by
        rw [KeyRequests.step, hintake]
      rcases run_event (s := m) (e := .returned encoder result) (by simp [permitted, hintake])
        hreturned with ⟨s', hrun, hend⟩
      refine ⟨s', hrun, hend.trans ?_⟩
      simp only [KeyRequests.conclude, hintake]
      cases result <;> rfl
  | release =>
    cases hstepped with
    | released frame forceIdr request hthread =>
      simp only [answers, hthread]
      have hcore : KeyRequests.step s.core (.release (s.core.intake.encoder.encodeRelease frame)) =
          some { s.core with intake := { s.core.intake with
            encoder := s.core.intake.encoder.encodeRelease frame
            thread := .released frame forceIdr request } } := by
        rw [KeyRequests.step, hthread]
      exact run_event (e := .release _) (by simp [permitted, AmfVideoEncoder.encodeRelease]) hcore
  | finish env =>
    cases hstepped with
    | finished frame forceIdr request _ hthread =>
      have hinfo := (VideoIntake.encodeRest_ok s.core.intake.encoder frame forceIdr env).1
      simp only [answers, hthread]
      have hcore : ∀ encoder result, KeyRequests.step s.core (.returned encoder result) =
          some (s.core.conclude encoder frame forceIdr request result) := by
        intro encoder result
        rw [KeyRequests.step, hthread]
      exact run_event (e := .returned _ _) (by simp [permitted, hinfo]) (hcore _ _)

end EncoderUse

end WivrnNx
