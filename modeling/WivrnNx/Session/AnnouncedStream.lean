import WivrnNx.Session.EyePairs
import WivrnNx.Session.VideoPath

/-!
# Frames and the stream they are announced as

The description of a stream goes to the client straight from the bridge, its frames by
way of two queues. What is begun is meant to be what the client has been told of.

- `Begun.Matches`: a frame's encoder, the description sent and the foveation agree;
- `Streams`: what is published is what the encoder produces, whenever it encodes;
- `announced_of_looked`: while each pump only finds frames that were pushed under the
  stream looked at last, every frame begun is the announced one;
- `stale_frame_begun`: a run in which a frame of the previous encoder is begun as one of
  the next.
-/

namespace WivrnNx

open Ipc Video StreamDescription

/-- The frame is what the client was told of. -/
structure Begun.Matches (b : Begun) : Prop where
  describes : Describes b.description b.traced.origin.info
  foveation : b.foveation = identityFoveation b.description.width b.description.height

/-- The encoder thread is somewhere between a ready encoder and its outputs. -/
def EncoderThread.busy : EncoderThread → Bool
  | .encoding _ _ | .holding _ _ _ | .released _ _ _ => true
  | _ => false

/-- `configure` is under way. -/
def EncoderThread.configuring : EncoderThread → Bool
  | .opening _ _ _ _ => true
  | _ => false

namespace VideoPath

variable {V T G P : Type*}

/-! ## What is published -/

/-- The published stream is what the encoder produces, or is about to be. -/
structure Streams (i : VideoIntake) (p : Option (EncoderStreamInfo × Bool)) (st : StreamState) :
    Prop where
  published : p = none → i.encoderReady = true → st.valid = true ∧ st.info = i.encoder.info
  announced : ∀ info valid, p = some (info, valid) → i.encoderReady = true →
    valid = true ∧ info = i.encoder.info
  busy : i.thread.busy = true → i.encoderReady = true
  configuring : i.thread.configuring = true → i.encoderReady = false

/-- A step that keeps the encoder as ready as it was. -/
theorem Streams.same {i i' : VideoIntake} {st : StreamState} (h : Streams i none st)
    (hready : i'.encoderReady = i.encoderReady) (hinfo : i'.encoder.info = i.encoder.info)
    (hbusy : i'.thread.busy = true → i.encoderReady = true)
    (hconfiguring : i'.thread.configuring = true → i.encoderReady = false) :
    Streams i' (announces i i') st := by
  have hnone : announces i i' = none := by
    unfold announces
    rw [hready]
    cases i.encoderReady <;> rfl
  rw [hnone]
  refine ⟨?_, ?_, ?_, ?_⟩
  · intro _ hr
    rw [hready] at hr
    rw [hinfo]
    exact h.published rfl hr
  · intro _ _ hp
    cases hp
  · rw [hready]
    exact hbusy
  · rw [hready]
    exact hconfiguring

/-- A step that leaves no encoder ready. -/
theorem Streams.stopped {i i' : VideoIntake} (st : StreamState)
    (hready : i'.encoderReady = false) (hidle : i'.thread.busy = false) :
    Streams i' (announces i i') st := by
  refine ⟨?_, ?_, ?_, fun _ => hready⟩
  · intro _ hr
    rw [hready] at hr
    cases hr
  · intro _ _ _ hr
    rw [hready] at hr
    cases hr
  · intro hbusy
    rw [hidle] at hbusy
    cases hbusy

/-- What `configure` made ready is announced. -/
theorem Streams.started {i i' : VideoIntake} (st : StreamState)
    (hbefore : i.encoderReady = false) (hready : i'.encoderReady = true)
    (hencoding : i'.thread.configuring = false) : Streams i' (announces i i') st := by
  have hsome : announces i i' = some (i'.encoder.info, true) := by
    unfold announces
    rw [hbefore, hready]
    rfl
  rw [hsome]
  refine ⟨?_, ?_, fun _ => hready, ?_⟩
  · intro hp
    cases hp
  · intro info valid hp _
    cases hp
    exact ⟨rfl, rfl⟩
  · intro hconfiguring
    rw [hencoding] at hconfiguring
    cases hconfiguring

theorem takePending_busy (i : VideoIntake) :
    i.takePending.thread.busy = false ∧ i.takePending.thread.configuring = false := by
  rcases i.takePending_thread with hthread | ⟨frame, hthread⟩
  · rw [hthread]
    exact ⟨rfl, rfl⟩
  · rw [hthread]
    exact ⟨rfl, rfl⟩

/-- After a call that ended, whatever it answered. -/
theorem Streams.concluded {i i' : VideoIntake} {st : StreamState} (h : Streams i none st)
    (hready : i'.encoderReady = i.encoderReady) (hinfo : i'.encoder.info = i.encoder.info)
    (frame : FrameReady) (forceIdr : Bool) (request : VideoRequest) (result : EncodeResult) :
    Streams (i'.concluded frame forceIdr request result)
      (announces i (i'.concluded frame forceIdr request result)) st := by
  rcases i'.concluded_cases frame forceIdr request result with
    ⟨hthread, -, -, ⟨hencoder, hsame⟩ | ⟨-, hstopped⟩⟩
  · refine h.same (hsame.trans hready) (by rw [hencoder, hinfo]) ?_ ?_
    · rw [hthread]
      intro hbusy
      cases hbusy
    · rw [hthread]
      intro hconfiguring
      cases hconfiguring
  · exact .stopped st hstopped (by rw [hthread]; rfl)

/-- The encoder thread announces what it does to the encoder. -/
theorem Streams.stepped {i i' : VideoIntake} {st : StreamState} {a : VideoIntake.EncoderAction}
    (h : Streams i none st) (hs : i.Stepped a i') : Streams i' (announces i i') st := by
  cases hs with
  | tear => exact h.same rfl rfl (by intro hb; cases hb) (by intro hc; cases hc)
  | wake hthread =>
    rcases takePending_busy { i with stagingChanged := false } with ⟨hbusy, hconfiguring⟩
    refine h.same (VideoIntake.takePending_encoderReady _)
      (congrArg AmfVideoEncoder.info (VideoIntake.takePending_encoder _)) ?_ ?_
    · rw [hbusy]
      intro hb
      cases hb
    · rw [hconfiguring]
      intro hc
      cases hc
  | relock =>
    exact .stopped st (VideoIntake.takePending_encoderReady _) (takePending_busy _).1
  | unstaged | staged | inactive | answered | dropped =>
    exact h.same rfl rfl (by intro hb; cases hb) (by intro hc; cases hc)
  | current frame config request hthread hactive hcurrent =>
    have hready : i.encoderReady = true := by
      simp only [VideoIntake.upToDate, decide_eq_true_eq] at hcurrent
      exact hcurrent.1
    exact h.same rfl rfl (fun _ => hready) (by intro hc; cases hc)
  | rebuild => exact .stopped st rfl rfl
  | opened frame config request found shared hthread =>
    refine h.same rfl rfl (by intro hb; cases hb) (fun _ => h.configuring ?_)
    rw [hthread]
    rfl
  | configured frame config request found machine hthread =>
    have hbefore : i.encoderReady = false := h.configuring (by rw [hthread]; rfl)
    unfold VideoIntake.configured
    split
    · exact .stopped st hbefore rfl
    · exact .started st hbefore rfl rfl
  | acquired frame request sync encoder hthread hencode =>
    have hready : i.encoderReady = true := h.busy (by rw [hthread]; rfl)
    have hacquire := VideoIntake.encodeAcquire_cases (i.retune request).encoder frame sync
    rw [hencode] at hacquire
    refine h.same (i.retune_encoderReady request) ?_ (fun _ => hready) (by intro hc; cases hc)
    exact hacquire.2.2.1.trans (i.retune_encoder request).2.2
  | refused frame request sync encoder result hthread hencode =>
    have hacquire := VideoIntake.encodeAcquire_cases (i.retune request).encoder frame sync
    rw [hencode] at hacquire
    have hready : ({ i.retune request with encoder := encoder } : VideoIntake).encoderReady =
        i.encoderReady := i.retune_encoderReady request
    have hinfo : ({ i.retune request with encoder := encoder } : VideoIntake).encoder.info =
        i.encoder.info := hacquire.2.2.1.trans (i.retune_encoder request).2.2
    exact h.concluded hready hinfo _ _ _ _
  | released frame forceIdr request hthread =>
    have hready : i.encoderReady = true := h.busy (by rw [hthread]; rfl)
    exact h.same rfl rfl (fun _ => hready) (by intro hc; cases hc)
  | finished frame forceIdr request env hthread =>
    have hready : ({ i with encoder := (i.encoder.encodeRest frame forceIdr env).1 } :
        VideoIntake).encoderReady = i.encoderReady := rfl
    have hinfo : ({ i with encoder := (i.encoder.encodeRest frame forceIdr env).1 } :
        VideoIntake).encoder.info = i.encoder.info :=
      (VideoIntake.encodeRest_ok i.encoder frame forceIdr env).1
    exact h.concluded hready hinfo _ _ _ _

/-! ## What is begun -/

/-- The stream in force when a frame was pushed was its encoder's. -/
def Honest (t : Traced) : Prop := t.origin.stream.info = t.origin.info

/-- The description names the last valid stream looked at, cut to 16 bits. -/
structure Names (d : StreamDescription) (info : EncoderStreamInfo) : Prop where
  width : d.width = info.width.toUInt16
  height : d.height = info.height.toUInt16
  codec : d.codec = codecOf info.codec

/-- The invariant. -/
structure Announcing (s : VideoPath V T G) : Prop where
  tracks : s.Tracks
  streams : Streams s.intake s.publication s.bridge.stream
  honest : ∀ t ∈ s.queued ++ s.bridged, Honest t
  names : ∀ info, s.seen = some info → Names s.description info
  begun : ∀ b ∈ s.begun, b.Matches

/-- The stream's picture fits the description's 16-bit fields. -/
def Fits (info : EncoderStreamInfo) : Prop :=
  info.width.toNat < 2 ^ 16 ∧ info.height.toNat < 2 ^ 16

/-- What a pump finds waiting was pushed under the stream the session has looked at last,
and that one fits. -/
def Looked (s : VideoPath V T G) (e : Event V T G) (_ : VideoPath V T G) : Prop :=
  e.isPump = true →
    ∀ t ∈ s.unbegun, s.seen = some t.origin.stream.info ∧ Fits t.origin.stream.info

instance (info : EncoderStreamInfo) : Decidable (Fits info) :=
  inferInstanceAs (Decidable (_ ∧ _))

instance (s : VideoPath V T G) (e : Event V T G) (s' : VideoPath V T G) :
    Decidable (Looked s e s') :=
  inferInstanceAs (Decidable (e.isPump = true → ∀ t ∈ s.unbegun,
    s.seen = some t.origin.stream.info ∧ Fits t.origin.stream.info))

theorem Names.describes {d : StreamDescription} {info : EncoderStreamInfo} (h : Names d info)
    (hfits : Fits info) : Describes d info := by
  refine ⟨?_, ?_, h.codec⟩
  · rw [h.width, UInt32.toNat_toUInt16, Nat.mod_eq_of_lt hfits.1]
  · rw [h.height, UInt32.toNat_toUInt16, Nat.mod_eq_of_lt hfits.2]

/-- A description that compares equal has the same picture and codec. -/
theorem names_of_beq {a d : StreamDescription} {info : EncoderStreamInfo} (h : a.beq d = true)
    (ha : Names a info) : Names d info := by
  simp only [StreamDescription.beq, Bool.and_eq_true, decide_eq_true_eq] at h
  rcases h with ⟨⟨⟨⟨hwidth, hheight⟩, hcodec⟩, -⟩, -⟩
  exact ⟨hwidth ▸ ha.width, hheight ▸ ha.height, hcodec ▸ ha.codec⟩

theorem describe_names (s : VideoPath V T G) (info : EncoderStreamInfo) :
    Names (s.describe info) info := ⟨rfl, rfl, rfl⟩

/-- After a look the description names what was looked at. -/
theorem look_names {s : VideoPath V T G}
    (h : ∀ info, s.seen = some info → Names s.description info) :
    ∀ info, s.look.seen = some info → Names s.look.description info := by
  unfold look
  dsimp only
  split
  · exact h
  · split
    · exact h
    · split
      · rename_i hsame
        intro info hinfo
        cases hinfo
        exact names_of_beq hsame.2 (s.describe_names _)
      · intro info hinfo
        cases hinfo
        exact s.describe_names _

/-- What is pushed was made by the encoder whose stream is published. -/
theorem pushedTraced_honest {s : VideoPath V T G} {a : VideoIntake.EncoderAction}
    (h : Streams s.intake none s.bridge.stream) : ∀ t ∈ s.pushedTraced a, Honest t := by
  intro t ht
  simp only [pushedTraced, List.mem_map] at ht
  rcases ht with ⟨f, hf, rfl⟩
  rcases pushed_released (List.ne_nil_of_mem hf) with ⟨frame, forceIdr, request, env, hthread, -⟩
  have hbusy : s.intake.thread.busy = true := by
    rw [hthread]
    rfl
  exact (h.published rfl (h.busy hbusy)).2

/-- A pump that meets the condition begins what the client was told of. -/
theorem pump_matches {w : WireFormat V T G P} {s : VideoPath V T G} (h : s.Announcing)
    (env : PumpEnv V T) (view : Foveation → EncodedFrame → V)
    (hlooked : ∀ t ∈ s.unbegun,
      s.seen = some t.origin.stream.info ∧ Fits t.origin.stream.info) :
    ∀ b ∈ (s.pump w env view).begun, b.Matches := by
  intro b hb
  rcases List.mem_append.mp hb with hold | hnew
  · exact h.begun b hold
  · rcases List.mem_map.mp hnew with ⟨t, ht, rfl⟩
    have hin : t ∈ s.unbegun :=
      (h.tracks.pump_sublist env view).subset (List.mem_append_left _ ht)
    have hhonest : Honest t := by
      refine h.honest t ?_
      rcases List.mem_append.mp hin with hqueued | hbridged
      · exact List.mem_append_left _ (List.mem_of_mem_drop hqueued)
      · exact List.mem_append_right _ hbridged
    rcases hlooked t hin with ⟨hseen, hfits⟩
    have hdescribes := (h.names _ hseen).describes hfits
    rw [hhonest] at hdescribes
    exact ⟨hdescribes, rfl⟩

theorem init_announcing (hasEncoder : Bool) (sender : PacedSender V T G) :
    (init hasEncoder sender).Announcing := by
  refine ⟨init_tracks hasEncoder sender, ⟨?_, ?_, ?_, ?_⟩, ?_, ?_, ?_⟩
  · intro _ hready
    cases hready
  · intro _ _ hp
    cases hp
  · intro hbusy
    cases hbusy
  · intro _
    rfl
  · intro t ht
    cases ht
  · intro info hseen
    cases hseen
  · intro b hb
    cases hb

theorem step_announcing {w : WireFormat V T G P} (s : VideoPath V T G) (e : Event V T G)
    (s' : VideoPath V T G) (h : s.Announcing) (hlooked : Looked s e s')
    (hs : step w s e = some s') : s'.Announcing := by
  have htracks := step_tracks h.tracks hs
  cases step_moved hs with
  | quiet _ _ _ hq =>
    refine ⟨htracks, ⟨?_, ?_, ?_, ?_⟩, ?_, ?_, ?_⟩
    · rw [hq.publication, hq.encoderReady, hq.encoder, hq.stream]
      exact h.streams.published
    · rw [hq.publication, hq.encoderReady, hq.encoder]
      exact h.streams.announced
    · rw [hq.thread, hq.encoderReady]
      exact h.streams.busy
    · rw [hq.thread, hq.encoderReady]
      exact h.streams.configuring
    · rw [hq.queued, hq.bridged]
      exact h.honest
    · rw [hq.seen, hq.description]
      exact h.names
    · rw [hq.begun]
      exact h.begun
  | encoder a i' hidle hreads hstep =>
    have hstreams := h.streams
    rw [hidle] at hstreams
    have hstream : (s.encoded a i').bridge.stream = s.bridge.stream := by
      change (s.bridge.pushFrames _).stream = _
      unfold VideoBridge.pushFrames
      split <;> rfl
    refine ⟨htracks, ?_, ?_, h.names, h.begun⟩
    · rw [hstream]
      exact hstreams.stepped hstep
    · intro t ht
      rcases List.mem_append.mp ht with hqueued | hbridged
      · exact h.honest t (List.mem_append_left _ hqueued)
      · rcases List.mem_append.mp ((Traced.push_sublist _ _ _).subset hbridged) with hold | hnew
        · exact h.honest t (List.mem_append_right _ hold)
        · exact pushedTraced_honest hstreams t hnew
  | publish info valid hp =>
    refine ⟨htracks, ⟨?_, ?_, h.streams.busy, h.streams.configuring⟩, h.honest, h.names, h.begun⟩
    · intro _ hready
      rcases h.streams.announced info valid hp hready with ⟨rfl, rfl⟩
      change (s.bridge.publishStream s.intake.encoder.info true).stream.valid = true ∧
        (s.bridge.publishStream s.intake.encoder.info true).stream.info = _
      unfold VideoBridge.publishStream
      split
      · rename_i hsame
        exact hsame
      · exact ⟨rfl, rfl⟩
    · intro _ _ hnone
      cases hnone
  | connect =>
    refine ⟨htracks, h.streams, ?_, ?_, ?_⟩
    · intro t ht
      exact h.honest t (List.mem_append_right _ ht)
    · intro info hseen
      cases hseen
    · intro b hb
      cases hb
  | setup =>
    refine ⟨htracks, h.streams, h.honest, ?_, h.begun⟩
    intro info hseen
    cases hseen
  | publishRequest => exact ⟨htracks, h.streams, h.honest, h.names, h.begun⟩
  | answer _ r =>
    rcases s.answer_cases r with ⟨bridge, requests, hbridge, hanswer⟩
    rw [hanswer] at htracks ⊢
    refine ⟨htracks, ?_, h.honest, h.names, h.begun⟩
    rcases hbridge with ⟨-, rfl⟩ | ⟨-, rfl⟩
    · exact h.streams
    · exact h.streams
  | look =>
    have hnames := look_names h.names
    rcases s.look_cases with ⟨thread, generation, seen, description, sent, -, hlook⟩
    rw [hlook] at htracks hnames ⊢
    exact ⟨htracks, h.streams, h.honest, hnames, h.begun⟩
  | ask => exact ⟨htracks, h.streams, h.honest, h.names, h.begun⟩
  | pump env view =>
    refine ⟨htracks, h.streams, ?_, h.names, pump_matches h env view (hlooked rfl)⟩
    intro t ht
    have hempty : (s.pump w env view).bridged = [] := rfl
    rw [hempty, List.append_nil] at ht
    exact h.honest t ((Traced.enqueue_sublist _ _ _).subset (List.mem_of_mem_drop ht))
  | disconnect =>
    have hstream : s.bridge.clearClient.stream = s.bridge.stream := by
      unfold VideoBridge.clearClient
      split <;> rfl
    refine ⟨htracks, ?_, ?_, h.names, ?_⟩
    · change Streams s.intake s.publication s.bridge.clearClient.stream
      rw [hstream]
      exact h.streams
    · intro t ht
      exact h.honest t (List.mem_append_right _ (s.disconnect_bridged.subset ht))
    · intro b hb
      cases hb

/-- In every run whose pumps only find frames of the stream looked at last, what is begun
is what the client was told of. -/
theorem announced_of_looked (w : WireFormat V T G P) (hasEncoder : Bool)
    (sender : PacedSender V T G) (es : List (Event V T G)) {s : VideoPath V T G}
    (hlooked : Runs.Along (step w) Looked (init hasEncoder sender) es)
    (hrun : Runs.run (step w) (init hasEncoder sender) es = some s) : ∀ b ∈ s.begun, b.Matches :=
  (Runs.run_invariant_along step_announcing es _ s (init_announcing hasEncoder sender) hlooked
    hrun).begun

/-! ## Two rings -/

open Pacing

/-- A pump that finds everything due. -/
def pumpNow : Event Unit Unit Unit :=
  .pump { now := 5, viewInfo := fun _ => (), timingInfo := fun _ => () } fun _ _ => ()

/-- One frame, encoded and begun. -/
def onePairRun : List (Event Unit Unit Unit) :=
  arriving idleSender ++ presenting 1 1 ++ configuring (ringOf 1 64 32) (requestOf 1) ++ encoding ++
    [.look, .ask, pumpNow]

theorem announced_of_looked_one_pair :
    ∃ s, Runs.run (step burstWire) (init true idleSender) onePairRun = some s ∧
      s.begun.length = 2 ∧ ∀ b ∈ s.begun, b.Matches := by
  have hlooked : Runs.Along (step burstWire) Looked (init true idleSender) onePairRun := by
    decide +kernel
  have hrun : (Runs.run (step burstWire) (init true idleSender) onePairRun).isSome = true := by
    decide +kernel
  rcases Option.isSome_iff_exists.mp hrun with ⟨s, hs⟩
  have hlength : (Runs.run (step burstWire) (init true idleSender) onePairRun).map
      (fun s => s.begun.length) = some 2 := by
    decide +kernel
  rw [hs] at hlength
  exact ⟨s, hs, Option.some.inj hlength, announced_of_looked burstWire true idleSender onePairRun
    hlooked hs⟩

/-- A frame of one ring waits on the bridge while the ring, and the encoder, is replaced. -/
def staleRun : List (Event Unit Unit Unit) :=
  arriving idleSender ++ presenting 1 1 ++ configuring (ringOf 1 64 32) (requestOf 1) ++ encoding ++
    [.stagingConfig (ringOf 2 128 64)] ++ presenting 2 2 ++ [.encoder .relock, .publish] ++
    configuring (ringOf 2 128 64) (requestOf 1) ++ [.look, .ask, pumpNow]

/-- The client is told of the second ring's picture and sent the first one's. -/
theorem stale_frame_begun :
    ∃ es s, Runs.run (step burstWire) (init true idleSender) es = some s ∧
      ∃ b ∈ s.begun, ¬ b.Matches := by
  have hrun : (Runs.run (step burstWire) (init true idleSender) staleRun).map (fun s =>
      s.begun.map fun b => (b.description.width.toNat, b.traced.origin.info.width.toNat)) =
      some [(64, 32), (64, 32)] := by
    decide +kernel
  rcases Option.map_eq_some_iff.mp hrun with ⟨s, hs, hwidths⟩
  refine ⟨staleRun, s, hs, ?_⟩
  cases hbegun : s.begun with
  | nil =>
    rw [hbegun] at hwidths
    cases hwidths
  | cons b bs =>
    rw [hbegun, List.map_cons, List.cons.injEq, Prod.mk.injEq] at hwidths
    refine ⟨b, List.mem_cons_self, ?_⟩
    intro hmatches
    have hwidth := hmatches.describes.width
    rw [hwidths.1.1, hwidths.1.2] at hwidth
    cases hwidth

end VideoPath

end WivrnNx
