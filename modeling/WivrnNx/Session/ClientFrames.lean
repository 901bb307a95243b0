import WivrnNx.Intake.FreshEncoder
import WivrnNx.Session.VideoPath

/-!
# The frames of one client

What every run of the video path keeps about the frames of the session that is there: they
have bytes, belong to one of the two streams, and there are none without a session. The
request is active exactly while there is one.

- `trail`: what a session has handed over, and what waits to be;
- `Same`, `Handled`, `step_handled`: an event is a step of the encoder thread, a pump, or a
  client that comes or goes; or it moves no frame;
- `Running`, `step_running`: the invariant.
-/

namespace WivrnNx

open Ipc Video

namespace VideoPath

variable {V T G P : Type*}

/-- The encoder thread's action. -/
def Event.action? : Event V T G → Option VideoIntake.EncoderAction
  | .encoder a => some a
  | _ => none

/-- What a pump meets. -/
def Event.env? : Event V T G → Option (PumpEnv V T)
  | .pump env _ => some env
  | _ => none

/-- What this session has handed over, and what waits to be. -/
def trail (s : VideoPath V T G) : List Traced := s.finished ++ s.queued ++ s.bridged

/-! ## What moves frames -/

/-- What a step pushes has bytes and goes out on both streams, or there is nothing. -/
theorem pushed_frames (i : VideoIntake) (a : VideoIntake.EncoderAction) :
    (∀ f ∈ (pushed i a).1, f.data ≠ []) ∧ ((pushed i a).1 = [] ∨
      (pushed i a).1.map EncodedFrame.streamIndex = [0, 1]) := by
  by_cases hnone : (pushed i a).1 = []
  · rw [hnone]
    exact ⟨fun f hf => absurd hf List.not_mem_nil, .inl rfl⟩
  · rcases pushed_released hnone with ⟨frame, forceIdr, request, env, -, -, hpushed⟩
    rw [hpushed]
    exact AmfVideoEncoder.encodeRest_frames i.encoder frame forceIdr env

/-- A pushed frame belongs to one of the two streams. -/
theorem pushed_stream {i : VideoIntake} {a : VideoIntake.EncoderAction} {f : EncodedFrame}
    (hf : f ∈ (pushed i a).1) : f.streamIndex < kStreamCount := by
  rcases (pushed_frames i a).2 with hnone | hpair
  · rw [hnone] at hf
    cases hf
  · have hmem := List.mem_map_of_mem (f := EncodedFrame.streamIndex) hf
    rw [hpair] at hmem
    rcases List.mem_pair.mp hmem with hzero | hone
    · rw [hzero]
      decide
    · rw [hone]
      decide

/-- A push of anything has a frame for every stream. -/
theorem pushed_every_stream {i : VideoIntake} {a : VideoIntake.EncoderAction}
    (h : (pushed i a).1 ≠ []) {k : ℕ} (hk : k < kStreamCount) :
    ∃ f ∈ (pushed i a).1, f.streamIndex = k := by
  have hpair := (pushed_frames i a).2.resolve_left h
  have hmem : k ∈ (pushed i a).1.map EncodedFrame.streamIndex := by
    rw [hpair]
    have htwo : k = 0 ∨ k = 1 := by
      unfold kStreamCount at hk
      omega
    rcases htwo with rfl | rfl
    · exact List.mem_cons_self
    · exact List.mem_cons_of_mem _ List.mem_cons_self
  exact List.mem_map.mp hmem

/-- A call answers `ok` only when it pushes. -/
theorem stepped_quiet {i i' : VideoIntake} {a : VideoIntake.EncoderAction} (h : i.Stepped a i')
    (hnone : (pushed i a).1 = []) (frame : FrameReady) : i'.thread ≠ .answering frame true := by
  intro hanswer
  cases h with
  | tear | staged | inactive | current | rebuild | opened | acquired | released | unstaged
  | answered | dropped => cases hanswer
  | wake | relock =>
    unfold VideoIntake.takePending at hanswer
    split at hanswer
    · cases hanswer
    · cases hanswer
  | configured =>
    unfold VideoIntake.configured at hanswer
    split at hanswer
    · cases hanswer
    · cases hanswer
  | refused frame' request sync encoder result hthread hencode =>
    have hkept := VideoIntake.encodeAcquire_cases (i.retune request).encoder frame' sync
    rw [hencode] at hkept
    rw [(VideoIntake.concluded_cases _ _ _ _ _).1, EncoderThread.answering.injEq,
      decide_eq_true_eq] at hanswer
    exact hkept.2.2.2 (congrArg some hanswer.2)
  | finished frame' forceIdr request env hthread =>
    rw [(VideoIntake.concluded_cases _ _ _ _ _).1, EncoderThread.answering.injEq,
      decide_eq_true_eq] at hanswer
    have hsome := (VideoIntake.encodeRest_ok i.encoder frame' forceIdr env).2.mp hanswer.2
    unfold pushed at hnone
    rw [hthread] at hnone
    cases hout : (i.encoder.encodeRest frame' forceIdr env).2.2 with
    | none => exact hsome hout
    | some outs =>
      simp only [hout] at hnone
      cases hnone

/-- `idr_seen_` stays, starts over with a new encoder, or moves with the push of a forced
call. -/
theorem stepped_seen {i i' : VideoIntake} {a : VideoIntake.EncoderAction} (h : i.Stepped a i') :
    i'.idrSeen = i.idrSeen ∨ i'.idrSeen = 0 ∨
      ((pushed i a).1 ≠ [] ∧ (pushed i a).2 = true) := by
  rcases (VideoIntake.stepped_remembers h).seen with
    hsame | hzero | ⟨frame, request, hthread, hanswer, -⟩
  · exact .inl hsame
  · exact .inr (.inl hzero)
  · have hpush : (pushed i a).1 ≠ [] := fun hnone => stepped_quiet h hnone frame hanswer
    refine .inr (.inr ⟨hpush, ?_⟩)
    rcases pushed_released hpush with ⟨frame', forceIdr, request', env, hthread', -, hpushed⟩
    rw [hthread] at hthread'
    cases hthread'
    rw [hpushed]

/-- A pushed frame is one of the step's, with the step's origin. -/
theorem pushedTraced_mem {s : VideoPath V T G} {a : VideoIntake.EncoderAction} {t : Traced}
    (h : t ∈ s.pushedTraced a) :
    t.frame ∈ (pushed s.intake a).1 ∧ t.origin = s.origin (pushed s.intake a).2 := by
  rcases List.mem_map.mp h with ⟨f, hf, rfl⟩
  exact ⟨hf, rfl⟩

theorem pushedTraced_eq_nil (s : VideoPath V T G) (a : VideoIntake.EncoderAction) :
    s.pushedTraced a = [] ↔ (pushed s.intake a).1 = [] := List.map_eq_nil_iff

/-- A pump only moves frames along, or loses them. -/
theorem pump_trail (w : WireFormat V T G P) (s : VideoPath V T G) (env : PumpEnv V T)
    (view : Foveation → EncodedFrame → V) :
    (∀ t ∈ (s.pump w env view).trail, t ∈ s.trail) ∧
      ∀ t ∈ (s.pump w env view).queued, t ∈ s.queued ++ s.bridged := by
  have hwaiting : ∀ t ∈ s.waiting, t ∈ s.queued ++ s.bridged := fun t ht =>
    (Traced.enqueue_sublist _ _ _).subset ht
  have hqueued : ∀ t ∈ (s.pump w env view).queued, t ∈ s.queued ++ s.bridged := fun t ht =>
    hwaiting t (List.mem_of_mem_drop ht)
  refine ⟨?_, hqueued⟩
  intro t ht
  have hempty : (s.pump w env view).bridged = [] := rfl
  rw [trail, hempty, List.append_nil] at ht
  rw [trail, List.append_assoc]
  rcases List.mem_append.mp ht with hfinished | hq
  · rcases List.mem_append.mp hfinished with hold | hnew
    · exact List.mem_append_left _ hold
    · refine List.mem_append_right _ (hwaiting t ?_)
      rcases List.mem_filterMap.mp hnew with ⟨⟨t', f, whole⟩, hzip, hsome⟩
      have hmem := List.mem_of_mem_take (List.of_mem_zip hzip).1
      dsimp only at hsome
      split at hsome
      · cases hsome
        exact hmem
      · cases hsome
  · exact List.mem_append_right _ (hqueued t hq)

/-- An event that moves no frame and leaves the encoder thread alone; it may ask for more. -/
structure Same (s s' : VideoPath V T G) : Prop where
  encoder : s'.intake.encoder = s.intake.encoder
  encoderReady : s'.intake.encoderReady = s.intake.encoderReady
  encoderConfigGeneration : s'.intake.encoderConfigGeneration = s.intake.encoderConfigGeneration
  idrSeen : s'.intake.idrSeen = s.intake.idrSeen
  thread : s'.intake.thread = s.intake.thread
  finished : s'.finished = s.finished
  queued : s'.queued = s.queued
  bridged : s'.bridged = s.bridged
  client : s'.client = s.client
  snapshotClient : s'.snapshotClient = s.snapshotClient
  away : s'.session = .away ↔ s.session = .away
  active : s'.bridge.request.active = s.bridge.request.active
  configGeneration : s.bridge.request.configGeneration ≤ s'.bridge.request.configGeneration
  idrGeneration : s.bridge.request.idrGeneration ≤ s'.bridge.request.idrGeneration
  /-- The tracker stops holding a request back by making it. -/
  held : s.session ≠ .shaking → s.video.idr.pending = true → s'.video.idr.pending = true ∨
    s.bridge.request.idrGeneration < s'.bridge.request.idrGeneration
  shaking : s'.session = .shaking → s.session = .shaking ∧ s'.video.idr = s.video.idr

/-- The events that move frames. -/
def Event.moves : Event V T G → Bool
  | .encoder _ | .pump _ _ | .connect _ _ _ _ | .disconnect => true
  | _ => false

/-- What an event does to a session's frames. -/
inductive Handled (w : WireFormat V T G P) (s : VideoPath V T G) :
    Event V T G → VideoPath V T G → Prop where
  | same (e : Event V T G) (s' : VideoPath V T G) (he : e.moves = false) (h : Same s s') :
      Handled w s e s'
  | encoder (a : VideoIntake.EncoderAction) (i' : VideoIntake) (hreads : reads s.bridge a = true)
      (hstep : s.intake.Stepped a i') : Handled w s (.encoder a) (s.encoded a i')
  | pump (env : PumpEnv V T) (view : Foveation → EncodedFrame → V)
      (hpresent : s.session ≠ .away) : Handled w s (.pump env view) (s.pump w env view)
  | connect (sender : PacedSender V T G) (hz : Flt) (h265 h264 : Bool)
      (haway : s.session = .away) :
      Handled w s (.connect sender hz h265 h264) (s.connect sender hz h265 h264)
  | disconnect (hpresent : s.session ≠ .away) : Handled w s .disconnect s.disconnect

theorem step_handled {w : WireFormat V T G P} {s s' : VideoPath V T G} {e : Event V T G}
    (hactive : s.bridge.request.active = true ↔ s.session ≠ .away) (hs : step w s e = some s') :
    Handled w s e s' := by
  cases step_moved hs with
  | quiet _ _ he hq =>
    refine .same _ _ ?_ ?_
    · cases e <;> first | rfl | cases he
    · exact ⟨hq.encoder, hq.encoderReady, hq.encoderConfigGeneration, hq.idrSeen, hq.thread,
        hq.finished, hq.queued, hq.bridged, hq.client, hq.snapshotClient, by rw [hq.session],
        hq.active, hq.configGeneration.ge, hq.idrGeneration.ge,
        fun _ hheld => .inl (by rw [hq.idr]; exact hheld),
        fun hshaking => ⟨hq.session.symm.trans hshaking, hq.idr⟩⟩
  | encoder a i' hidle hreads hstep => exact .encoder a i' hreads hstep
  | publish info valid =>
    refine .same _ _ rfl ?_
    have hrequest := s.bridge.publishStream_request info valid
    exact ⟨rfl, rfl, rfl, rfl, rfl, rfl, rfl, rfl, rfl, rfl, Iff.rfl, by rw [hrequest],
      by rw [hrequest], by rw [hrequest], fun _ hheld => .inl hheld,
      fun hshaking => ⟨hshaking, rfl⟩⟩
  | connect sender hz h265 h264 haway => exact .connect sender hz h265 h264 haway
  | setup width height codec hshaking =>
    refine .same _ _ rfl ?_
    refine ⟨rfl, rfl, rfl, rfl, rfl, rfl, rfl, rfl, rfl, rfl, ?_, rfl, le_refl _, le_refl _,
      fun hne => absurd hshaking hne, ?_⟩
    · simp [setup, hshaking]
    · intro hafter
      cases hafter
  | publishRequest hz h265 h264 hlooping =>
    refine .same _ _ rfl ?_
    have hbefore := hactive.mpr (by simp [hlooping])
    refine ⟨rfl, rfl, rfl, rfl, rfl, rfl, rfl, rfl, rfl, rfl, Iff.rfl, hbefore.symm, ?_, ?_,
      fun _ hheld => .inl hheld, fun hshaking => ⟨hshaking, rfl⟩⟩
    · exact (s.bridge.setClient_generations hz h265 h264).1
    · exact (s.bridge.setClient_generations hz h265 h264).2
  | answer _ r hlooping hr =>
    have hheld : s.video.idr.pending = true → r.1.pending = true ∨ r.2 = true := by
      intro hpending
      rcases hr with ⟨feedback, now, -, rfl⟩ | ⟨now, -, rfl⟩
      · exact IdrTracker.onFeedback_held hpending feedback now
      · exact IdrTracker.poll_held hpending now
    rcases s.answer_cases r with ⟨bridge, requests, hbridge, hanswer⟩
    rw [hanswer]
    refine .same _ _ ?_ ?_
    · rcases hr with ⟨feedback, now, rfl, -⟩ | ⟨now, rfl, -⟩
      · rfl
      · rfl
    · have hshaking : s.session ≠ .shaking := by
        rw [hlooping]
        exact SessionThread.noConfusion
      rcases hbridge with ⟨hquiet, rfl⟩ | ⟨-, rfl⟩
      · refine ⟨rfl, rfl, rfl, rfl, rfl, rfl, rfl, rfl, rfl, rfl, Iff.rfl, rfl, le_refl _,
          le_refl _, ?_, fun hnow => absurd hnow hshaking⟩
        intro _ hpending
        refine .inl ((hheld hpending).resolve_right ?_)
        rw [hquiet]
        exact Bool.false_ne_true
      · exact ⟨rfl, rfl, rfl, rfl, rfl, rfl, rfl, rfl, rfl, rfl, Iff.rfl, rfl, le_refl _,
          Nat.le_succ _, fun _ _ => .inr (Nat.lt_succ_self _), fun hnow => absurd hnow hshaking⟩
  | look hlooping =>
    rcases s.look_cases with ⟨thread, generation, seen, description, sent, hthread, hlook⟩
    rw [hlook]
    refine .same _ _ rfl ?_
    refine ⟨rfl, rfl, rfl, rfl, rfl, rfl, rfl, rfl, rfl, rfl, ?_, rfl, le_refl _, le_refl _,
      fun _ hheld => .inl hheld, ?_⟩
    · rcases hthread with rfl | rfl
      · simp [hlooping]
      · simp [hlooping]
    · intro hshaking
      rcases hthread with rfl | rfl
      · cases hshaking
      · cases hshaking
  | ask hasking =>
    refine .same _ _ rfl ?_
    refine ⟨rfl, rfl, rfl, rfl, rfl, rfl, rfl, rfl, rfl, rfl, ?_, rfl, le_refl _, Nat.le_succ _,
      fun _ _ => .inr (Nat.lt_succ_self _), ?_⟩
    · simp [ask, hasking]
    · intro hshaking
      cases hshaking
  | pump env view hdescribed => exact .pump env view (by simp [hdescribed])
  | disconnect hpresent => exact .disconnect hpresent

/-! ## The invariant -/

/-- What is true of the frames of a session in every run. -/
structure Running (s : VideoPath V T G) : Prop where
  tracks : s.Tracks
  waits : ∀ t ∈ s.queued ++ s.bridged, t.frame.data ≠ []
  streams : ∀ t ∈ s.trail, t.frame.streamIndex < kStreamCount
  active : s.bridge.request.active = true ↔ s.session ≠ .away
  away : s.session = .away → s.trail = []
  asked : s.bridge.request.active = true → s.bridge.request.idrGeneration ≠ 0

theorem init_running (hasEncoder : Bool) (sender : PacedSender V T G) :
    (init hasEncoder sender).Running := by
  have htrail : (init hasEncoder sender).trail = [] := rfl
  refine ⟨init_tracks hasEncoder sender, ?_, ?_, ?_, fun _ => htrail, ?_⟩
  · intro t ht
    cases ht
  · intro t ht
    rw [htrail] at ht
    cases ht
  · exact ⟨fun hfalse => absurd hfalse (by simp [init]), fun hne => absurd rfl hne⟩
  · intro hfalse
    cases hfalse

theorem Same.trail {s s' : VideoPath V T G} (h : Same s s') : s'.trail = s.trail := by
  rw [VideoPath.trail, VideoPath.trail, h.finished, h.queued, h.bridged]

theorem Same.running {s s' : VideoPath V T G} (hsame : Same s s') (h : s.Running)
    (htracks : s'.Tracks) : s'.Running := by
  refine ⟨htracks, ?_, ?_, ?_, ?_, ?_⟩
  · rw [hsame.queued, hsame.bridged]
    exact h.waits
  · rw [hsame.trail]
    exact h.streams
  · rw [hsame.active, h.active]
    exact not_congr hsame.away.symm
  · intro haway
    rw [hsame.trail]
    exact h.away (hsame.away.mp haway)
  · intro hactive
    rw [hsame.active] at hactive
    have hasked := h.asked hactive
    have hle := hsame.idrGeneration
    omega

/-- A step of the encoder thread only adds frames with bytes, and only for a client. -/
theorem encoded_running {s : VideoPath V T G} (h : s.Running) (a : VideoIntake.EncoderAction)
    (i' : VideoIntake) (htracks : (s.encoded a i').Tracks) : (s.encoded a i').Running := by
  have hrequest : (s.encoded a i').bridge.request = s.bridge.request :=
    VideoBridge.pushFrames_request _ _
  have hbridged : ∀ t ∈ (s.encoded a i').bridged, t ∈ s.bridged ∨ t ∈ s.pushedTraced a := by
    intro t ht
    exact List.mem_append.mp ((Traced.push_sublist s.bridge s.bridged (s.pushedTraced a)).subset ht)
  refine ⟨htracks, ?_, ?_, ?_, ?_, ?_⟩
  · intro t ht
    rcases List.mem_append.mp ht with hq | hb
    · exact h.waits t (List.mem_append_left _ hq)
    · rcases hbridged t hb with hold | hnew
      · exact h.waits t (List.mem_append_right _ hold)
      · exact (pushed_frames s.intake a).1 t.frame (pushedTraced_mem hnew).1
  · intro t ht
    rcases List.mem_append.mp ht with hold | hb
    · exact h.streams t (List.mem_append_left _ hold)
    · rcases hbridged t hb with hold | hnew
      · exact h.streams t (List.mem_append_right _ hold)
      · exact pushed_stream (pushedTraced_mem hnew).1
  · rw [hrequest]
    exact h.active
  · intro haway
    have hinactive : ¬ s.bridge.request.active = true := fun hactive =>
      absurd haway (h.active.mp hactive)
    have hsame : (s.encoded a i').bridged = s.bridged := if_pos (.inr hinactive)
    rw [trail, hsame]
    exact h.away haway
  · rw [hrequest]
    exact h.asked

/-- A client that comes finds nothing waiting, and is given a new configuration. -/
theorem connect_running {s : VideoPath V T G} (h : s.Running) (haway : s.session = .away)
    (sender : PacedSender V T G) (hz : Flt) (h265 h264 : Bool)
    (htracks : (s.connect sender hz h265 h264).Tracks) :
    (s.connect sender hz h265 h264).Running ∧ (s.connect sender hz h265 h264).trail = [] ∧
      (s.connect sender hz h265 h264).bridge.request.configGeneration =
        s.bridge.request.configGeneration + 1 := by
  have hinactive : s.bridge.request.active = false := by
    cases hactive : s.bridge.request.active with
    | false => rfl
    | true => exact absurd haway (h.active.mp hactive)
  have hchanged : s.bridge.clientChanged hz h265 h264 = true := by
    simp [VideoBridge.clientChanged, hinactive]
  have hgenerations : (s.bridge.setClient hz h265 h264).request.configGeneration =
        s.bridge.request.configGeneration + 1 ∧
      (s.bridge.setClient hz h265 h264).request.idrGeneration =
        s.bridge.request.idrGeneration + 1 := by
    simp [VideoBridge.setClient, hchanged]
  have hbridged : s.bridged = [] := by
    have hnone := h.away haway
    rw [trail, List.append_eq_nil_iff] at hnone
    exact hnone.2
  have htrail : (s.connect sender hz h265 h264).trail = [] := hbridged
  refine ⟨⟨htracks, ?_, ?_, ?_, fun _ => htrail, ?_⟩, htrail, hgenerations.1⟩
  · intro t ht
    have hnone : (s.connect sender hz h265 h264).queued ++
        (s.connect sender hz h265 h264).bridged = [] := hbridged
    rw [hnone] at ht
    cases ht
  · intro t ht
    rw [htrail] at ht
    cases ht
  · exact ⟨fun _ => by simp [connect], fun _ => rfl⟩
  · intro _
    change (s.bridge.setClient hz h265 h264).request.idrGeneration ≠ 0
    rw [hgenerations.2]
    exact Nat.succ_ne_zero _

theorem pump_running {w : WireFormat V T G P} {s : VideoPath V T G} (h : s.Running)
    (hpresent : s.session ≠ .away) (env : PumpEnv V T) (view : Foveation → EncodedFrame → V)
    (htracks : (s.pump w env view).Tracks) : (s.pump w env view).Running := by
  rcases pump_trail w s env view with ⟨htrail, hqueued⟩
  refine ⟨htracks, ?_, ?_, ?_, ?_, h.asked⟩
  · intro t ht
    have hempty : (s.pump w env view).bridged = [] := rfl
    rw [hempty, List.append_nil] at ht
    exact h.waits t (hqueued t ht)
  · intro t ht
    exact h.streams t (htrail t ht)
  · exact ⟨fun _ => by simp [pump], fun _ => h.active.mpr hpresent⟩
  · intro haway
    cases haway

/-- The session ends with nothing left of it. -/
theorem disconnect_running {s : VideoPath V T G} (h : s.Running) (hpresent : s.session ≠ .away)
    (htracks : s.disconnect.Tracks) : s.disconnect.Running ∧
      s.disconnect.bridge.request = { s.bridge.request with active := false } ∧
      s.disconnect.bridged = [] := by
  have hactive := h.active.mpr hpresent
  have hbridged : s.disconnect.bridged = [] := if_pos hactive
  have hrequest : s.disconnect.bridge.request = { s.bridge.request with active := false } := by
    change s.bridge.clearClient.request = _
    unfold VideoBridge.clearClient
    rw [if_neg (not_not.mpr hactive)]
  have htrail : s.disconnect.trail = [] := hbridged
  refine ⟨⟨htracks, ?_, ?_, ?_, fun _ => htrail, ?_⟩, hrequest, hbridged⟩
  · intro t ht
    have hnone : s.disconnect.queued ++ s.disconnect.bridged = [] := hbridged
    rw [hnone] at ht
    cases ht
  · intro t ht
    rw [htrail] at ht
    cases ht
  · rw [hrequest]
    exact ⟨fun hfalse => absurd hfalse (by simp), fun hne => absurd rfl hne⟩
  · rw [hrequest]
    intro hfalse
    cases hfalse

theorem step_running {w : WireFormat V T G P} {s s' : VideoPath V T G} {e : Event V T G}
    (h : s.Running) (hs : step w s e = some s') : s'.Running := by
  have htracks := step_tracks h.tracks hs
  cases step_handled h.active hs with
  | same _ _ _ hsame => exact hsame.running h htracks
  | encoder a i' => exact encoded_running h a i' htracks
  | pump env view hpresent => exact pump_running h hpresent env view htracks
  | connect sender hz h265 h264 haway =>
    exact (connect_running h haway sender hz h265 h264 htracks).1
  | disconnect hpresent => exact (disconnect_running h hpresent htracks).1

end VideoPath

end WivrnNx
