import WivrnNx.Bitrate.Newest
import WivrnNx.Session.AnnouncedStream

/-!
# Frame indices over a session

The frame index on the wire is `frame_id_` of the component that rendered the frame: a
counter in another process. The bitrate controller and the IDR tracker take it for one
that only grows.

- `Numbered`: the video path, the component, the pipe between them and the controller;
- `Ordered`: what was begun, what waits and what is still coming are in order, through
  the pipe, the intake, the encoder and both queues;
- `indexed_of_kept`: while no vrserver restarts with frames of the one before begun or on
  their way, the indices of a stream increase and every new frame is listened to;
- `restarted_index`: a restart during a session.
-/

namespace WivrnNx

open Ipc Video

/-- The pipe between a vrserver and the helper. -/
inductive ShimPipe where
  | closed
  /-- The component that runs has it. -/
  | linked
  /-- Its vrserver is gone, which the helper has not noticed yet. -/
  | orphaned
deriving DecidableEq, Repr

/-- The frame the encoder thread has still to push. -/
def EncoderThread.coming : EncoderThread → Option FrameReady
  | .answering _ _ => none
  | t => t.frame?

/-- The video path, with the component that numbers its frames. -/
structure Numbered (V T G : Type*) where
  path : VideoPath V T G
  /-- `frame_id_` of the `DirectModeComponent` that runs. -/
  frameId : ℕ := 0
  /-- The `FrameReady` that `transport_frame_locked` has made and not yet queued. -/
  hand : Option FrameReady := none
  /-- The messages on their way to the helper. -/
  pipe : List FrameReady := []
  shim : ShimPipe := .closed
  bitrate : BitrateController := {}

namespace Numbered

open BitrateController (Op)

variable {V T G P : Type*}

/-- What may happen next. -/
inductive Event (V T G : Type*) where
  /-- `transport_frame_locked` takes an id. -/
  | present (sampleTimeQpc generation stagingIndex : ℕ) (pose : Pose) (predictS : Flt)
  /-- `send_frame_ready`, which may refuse. -/
  | send (queued : Bool)
  /-- A shim connects. -/
  | link
  | deliver
  /-- The helper notices that the shim is gone. -/
  | hangUp
  /-- The vrserver restarts: a new component. -/
  | restart
  /-- `configure_transport`. -/
  | configure (conf : BitrateController.Config) (ceilingBps : ℕ) (clientEnabled radioAware : Bool)
      (clientMode : Option BitrateMode)
  /-- Any other operation on the controller. -/
  | bitrate (op : Op)
  /-- Anything else on the video path; `clock` is what `on_frame_bytes` reads. -/
  | path (e : VideoPath.Event V T G) (clock : EncodedFrame → ℤ)

/-- The frames begun in this session, in order. -/
def begunFrames (s : Numbered V T G) : List EncodedFrame :=
  s.path.begun.map fun b => b.traced.frame

/-- What the pipe brings is not the session's. -/
def fromPipe : VideoPath.Event V T G → Bool
  | .frameReady _ => true
  | .shimGone => true
  | _ => false

/-- The headset reports on frames it was sent. -/
def reports (s : Numbered V T G) : VideoPath.Event V T G → Bool
  | .feedback feedback _ => s.begunFrames.any fun f => f.frameId = feedback.frameIndex
  | _ => true

/-- The operations on the controller that come with a feedback packet or a pump are
`path`'s. -/
def standsAlone (op : Op) : Bool := op.frame? = none

/-- The bytes of the frames handed over whole. -/
def booked (log : List (VideoEvent V T P)) : List (EncodedFrame × ℕ) :=
  log.filterMap fun
    | .finished f wireBytes => some (f, wireBytes)
    | _ => none

/-- `on_frame_bytes`, for one frame. -/
def book (clock : EncodedFrame → ℤ) (c : BitrateController) (f : EncodedFrame × ℕ) :
    BitrateController :=
  c.onFrameBytes f.1.frameId f.1.streamIndex f.2 (clock f.1)

/-- The controller after an event on the video path; it is the session's own. -/
def bitrateAfter (w : WireFormat V T G P) (s : Numbered V T G) (clock : EncodedFrame → ℤ) :
    VideoPath.Event V T G → BitrateController
  | .connect _ _ _ _ => {}
  | .disconnect => {}
  | .feedback feedback now =>
    (s.bitrate.onFeedback feedback s.path.video.framePeriodNs true now).1
  | .pump env view =>
    (booked (pumpVideo w { env with viewInfo := view s.path.foveation } s.path.video
      s.path.bridge).2.2).foldl (book clock) s.bitrate
  | _ => s.bitrate

/-- One event. -/
def step (w : WireFormat V T G P) (s : Numbered V T G) : Event V T G → Option (Numbered V T G)
  | .present qpc generation index pose predictS =>
    match s.hand with
    | some _ => none
    | none =>
      let frameId := (s.frameId + 1) % 2 ^ 64
      some { s with frameId := frameId
                    hand := some { frameId := frameId, sampleTimeQpc := qpc,
                                   generation := generation, stagingIndex := index,
                                   pose := pose, predictS := predictS } }
  | .send queued =>
    match s.hand with
    | none => none
    | some frame =>
      if queued ∧ s.shim = .linked then some { s with hand := none, pipe := s.pipe ++ [frame] }
      else some { s with hand := none }
  | .link => if s.shim = .closed then some { s with shim := .linked } else none
  | .deliver =>
    match s.pipe with
    | [] => none
    | frame :: rest =>
      (s.path.step w (.frameReady frame)).map fun path => { s with path := path, pipe := rest }
  | .hangUp =>
    if s.shim = .closed then none
    else (s.path.step w .shimGone).map fun path =>
      { s with path := path, pipe := [], shim := .closed }
  | .restart =>
    some { s with frameId := 0, hand := none
                  shim := if s.shim = .closed then .closed else .orphaned }
  | .configure conf ceiling enabled radio mode =>
    some { s with bitrate := s.bitrate.configure conf ceiling enabled radio mode }
  | .bitrate op =>
    if standsAlone op then some { s with bitrate := (s.bitrate.act op).1 } else none
  | .path e clock =>
    if fromPipe e ∨ ¬ s.reports e then none
    else (s.path.step w e).map fun path =>
      { s with path := path, bitrate := bitrateAfter w s clock e }

/-- Before anything was connected. -/
def init (hasEncoder : Bool) (sender : PacedSender V T G) : Numbered V T G :=
  { path := VideoPath.init hasEncoder sender }

/-- On each stream the indices increase, and what is new is not taken for old: neither by
the controller, nor by the tracker. -/
structure Indexed (s : Numbered V T G) : Prop where
  increasing : s.begunFrames.Pairwise fun f g =>
    f.streamIndex = g.streamIndex → f.frameId < g.frameId
  counted : ∀ f ∈ s.begunFrames,
    (∀ g ∈ s.begunFrames, g.frameId < f.frameId + BitrateController.frameRingSize) →
      ∀ now, s.bitrate.trackFrame f.frameId now ≠ none
  watched : ∀ f, s.begunFrames.getLast? = some f → s.path.video.idr.state = .running →
    s.path.video.idr.firstP ≤ f.frameId

/-! ## In order -/

/-- The frame that waits in the intake and the one the encoder thread has. -/
def incoming (i : VideoIntake) : List FrameReady := i.thread.coming.toList ++ i.pending.toList

/-- The frames that have still to be pushed, oldest first. -/
def coming (s : Numbered V T G) : List FrameReady :=
  incoming s.path.intake ++ s.pipe ++ s.hand.toList

/-- The frames begun and those that wait to be. -/
def onWay (p : VideoPath V T G) : List EncodedFrame :=
  (p.begun.map fun b => b.traced.frame) ++ Traced.frames p.unbegun

/-- Two frames in order, the eyes of one frame in theirs. -/
def Before (f g : EncodedFrame) : Prop :=
  f.frameId ≤ g.frameId ∧ (f.streamIndex = g.streamIndex → f.frameId < g.frameId)

/-- Frames `fs` on their way or begun, frames `rs` still to come, and the last id given. -/
structure Ordered (fs : List EncodedFrame) (rs : List FrameReady) (last : ℕ) : Prop where
  frames : fs.Pairwise Before
  coming : rs.Pairwise fun r r' => r.frameId < r'.frameId
  later : ∀ f ∈ fs, ∀ r ∈ rs, f.frameId < r.frameId
  framesGiven : ∀ f ∈ fs, f.frameId ≤ last
  comingGiven : ∀ r ∈ rs, r.frameId ≤ last

/-- Losing frames keeps the order. -/
theorem Ordered.sublist {fs fs' : List EncodedFrame} {rs rs' : List FrameReady} {last : ℕ}
    (h : Ordered fs rs last) (hfs : List.Sublist fs' fs) (hrs : List.Sublist rs' rs) :
    Ordered fs' rs' last where
  frames := h.frames.sublist hfs
  coming := h.coming.sublist hrs
  later := fun f hf r hr => h.later f (hfs.subset hf) r (hrs.subset hr)
  framesGiven := fun f hf => h.framesGiven f (hfs.subset hf)
  comingGiven := fun r hr => h.comingGiven r (hrs.subset hr)

/-- The next id is later than all. -/
theorem Ordered.present {fs : List EncodedFrame} {rs : List FrameReady} {last : ℕ}
    (h : Ordered fs rs last) {r : FrameReady} (hr : r.frameId = last + 1) :
    Ordered fs (rs ++ [r]) (last + 1) := by
  refine ⟨h.frames, ?_, ?_, ?_, ?_⟩
  · rw [List.pairwise_append]
    refine ⟨h.coming, List.pairwise_singleton _ _, ?_⟩
    intro r' hr' r'' hr''
    have hle := h.comingGiven r' hr'
    rw [List.mem_singleton.mp hr'', hr]
    omega
  · intro f hf r' hr'
    rcases List.mem_append.mp hr' with hold | hnew
    · exact h.later f hf r' hold
    · have hle := h.framesGiven f hf
      rw [List.mem_singleton.mp hnew, hr]
      omega
  · intro f hf
    have hle := h.framesGiven f hf
    omega
  · intro r' hr'
    rcases List.mem_append.mp hr' with hold | hnew
    · have hle := h.comingGiven r' hold
      omega
    · rw [List.mem_singleton.mp hnew, hr]

/-- Both eyes of the oldest frame still to come are behind all that is on its way. -/
theorem Ordered.push {fs : List EncodedFrame} {r : FrameReady} {rs : List FrameReady} {last : ℕ}
    (h : Ordered fs (r :: rs) last) {left right : EncodedFrame} (hleft : left.frameId = r.frameId)
    (hright : right.frameId = r.frameId) (heyes : left.streamIndex ≠ right.streamIndex) :
    Ordered (fs ++ [left, right]) rs last := by
  have hgiven := h.comingGiven r List.mem_cons_self
  have hnew : ∀ f ∈ [left, right], f.frameId = r.frameId := by
    intro f hf
    rcases List.mem_pair.mp hf with rfl | rfl
    · exact hleft
    · exact hright
  rcases List.pairwise_cons.mp h.coming with ⟨hfirst, hrest⟩
  refine ⟨?_, hrest, ?_, ?_, ?_⟩
  · rw [List.pairwise_append]
    refine ⟨h.frames, ?_, ?_⟩
    · rw [List.pairwise_pair]
      refine ⟨by rw [hleft, hright], ?_⟩
      intro hsame
      exact absurd hsame heyes
    · intro f hf g hg
      have hlt := h.later f hf r List.mem_cons_self
      rw [← hnew g hg] at hlt
      exact ⟨le_of_lt hlt, fun _ => hlt⟩
  · intro f hf r' hr'
    rcases List.mem_append.mp hf with hold | hpushed
    · exact h.later f hold r' (List.mem_cons_of_mem r hr')
    · rw [hnew f hpushed]
      exact hfirst r' hr'
  · intro f hf
    rcases List.mem_append.mp hf with hold | hpushed
    · exact h.framesGiven f hold
    · rw [hnew f hpushed]
      exact hgiven
  · intro r' hr'
    exact h.comingGiven r' (List.mem_cons_of_mem r hr')

/-! ## One event on the video path -/

/-- Taking the waiting frame moves it to the encoder thread. -/
theorem takePending_incoming {i : VideoIntake} (h : i.thread.coming = none) :
    incoming i.takePending = incoming i := by
  unfold VideoIntake.takePending
  cases hpending : i.pending with
  | none =>
    rw [incoming, incoming, h, hpending]
    rfl
  | some frame =>
    rw [incoming, incoming, h, hpending]
    rfl

/-- A step that keeps the waiting frame, and the frame it works on or answers it. -/
theorem incoming_sublist {i i' : VideoIntake} (hpending : i'.pending = i.pending)
    (hthread : i'.thread.coming = i.thread.coming ∨ i'.thread.coming = none) :
    List.Sublist (incoming i') (incoming i) := by
  rcases hthread with hsame | hnone
  · rw [incoming, incoming, hpending, hsame]
  · rw [incoming, incoming, hpending, hnone]
    exact List.sublist_append_right _ _

/-- The encoder thread takes frames in the order they came in. -/
theorem stepped_incoming {i i' : VideoIntake} {a : VideoIntake.EncoderAction}
    (h : i.Stepped a i') : List.Sublist (incoming i') (incoming i) := by
  cases h with
  | tear hthread => exact incoming_sublist rfl (.inr rfl)
  | wake hthread =>
    have hnone : ({ i with stagingChanged := false } : VideoIntake).thread.coming = none := by
      change i.thread.coming = none
      rw [hthread]
      rfl
    rw [takePending_incoming hnone]
    exact List.Sublist.refl _
  | relock hthread =>
    have hnone : ({ i.shutdownEncoder with encoderGeneration := 0 } : VideoIntake).thread.coming =
        none := by
      change i.thread.coming = none
      rw [hthread]
      rfl
    rw [takePending_incoming hnone]
    exact List.Sublist.refl _
  | unstaged => exact incoming_sublist rfl (.inr rfl)
  | staged frame config hthread => exact incoming_sublist rfl (.inl (by rw [hthread]; rfl))
  | inactive => exact incoming_sublist rfl (.inr rfl)
  | current frame config request hthread => exact incoming_sublist rfl (.inl (by rw [hthread]; rfl))
  | rebuild frame config request hthread => exact incoming_sublist rfl (.inl (by rw [hthread]; rfl))
  | opened frame config request found shared hthread =>
    exact incoming_sublist rfl (.inl (by rw [hthread]; rfl))
  | configured frame config request found machine hthread =>
    unfold VideoIntake.configured
    split
    · exact incoming_sublist rfl (.inr rfl)
    · exact incoming_sublist rfl (.inl (by rw [hthread]; rfl))
  | acquired frame request sync encoder hthread =>
    exact incoming_sublist (i.retune_pending request) (.inl (by rw [hthread]; rfl))
  | refused frame request sync encoder result =>
    refine incoming_sublist ?_ (.inr ?_)
    · exact (VideoIntake.concluded_keeps _ _ _ _ _).1.trans (i.retune_pending request)
    · rw [(VideoIntake.concluded_cases _ _ _ _ _).1]
      rfl
  | released frame forceIdr request hthread => exact incoming_sublist rfl (.inl (by rw [hthread]; rfl))
  | finished frame forceIdr request env =>
    refine incoming_sublist ?_ (.inr ?_)
    · exact (VideoIntake.concluded_keeps _ _ _ _ _).1
    · rw [(VideoIntake.concluded_cases _ _ _ _ _).1]
      rfl
  | answered => exact incoming_sublist rfl (.inr rfl)
  | dropped => exact incoming_sublist rfl (.inr rfl)

/-- What a step pushes: nothing, or both eyes of the frame the thread has worked on, which
it has no more. -/
theorem stepped_pushes {i i' : VideoIntake} {a : VideoIntake.EncoderAction} (h : i.Stepped a i') :
    (VideoPath.pushed i a).1 = [] ∨ ∃ frame left right,
      incoming i = frame :: incoming i' ∧ (VideoPath.pushed i a).1 = [left, right] ∧
      left.frameId = frame.frameId ∧ right.frameId = frame.frameId ∧
      left.streamIndex = 0 ∧ right.streamIndex = 1 := by
  cases h with
  | finished frame forceIdr request env hthread =>
    have hpending := (VideoIntake.concluded_keeps
      { i with encoder := (i.encoder.encodeRest frame forceIdr env).1 } frame forceIdr request
      (i.encoder.encodeRest frame forceIdr env).2.1).1
    have hcoming := (VideoIntake.concluded_cases
      { i with encoder := (i.encoder.encodeRest frame forceIdr env).1 } frame forceIdr request
      (i.encoder.encodeRest frame forceIdr env).2.1).1
    have hpushed : (VideoPath.pushed i (.finish env)).1 =
        AmfVideoEncoder.labelled frame (i.encoder.encodeRest frame forceIdr env).2.2 := by
      unfold VideoPath.pushed
      rw [hthread]
    rw [hpushed]
    cases hout : (i.encoder.encodeRest frame forceIdr env).2.2 with
    | none => exact .inl rfl
    | some outs =>
      rcases outs with ⟨outL, outR⟩
      refine .inr ⟨frame, _, _, ?_, rfl, rfl, rfl, rfl, rfl⟩
      rw [incoming, incoming, hpending, hcoming, hthread]
      rfl
  | tear | wake | relock | unstaged | staged | inactive | current | rebuild | opened | configured
  | acquired | refused | released | answered | dropped => exact .inl rfl

/-- What an event brings into the intake. -/
def arrives : VideoPath.Event V T G → List FrameReady
  | .frameReady frame => [frame]
  | _ => []

/-- An event on the video path only loses frames, or moves the oldest one to come behind
those on their way. -/
structure Flows (p p' : VideoPath V T G) (new : List FrameReady) : Prop where
  moves : (List.Sublist (incoming p'.intake) (incoming p.intake ++ new) ∧
      List.Sublist (onWay p') (onWay p)) ∨
    ∃ frame left right, incoming p.intake = frame :: incoming p'.intake ∧
      List.Sublist (onWay p') (onWay p ++ [left, right]) ∧ left.frameId = frame.frameId ∧
      right.frameId = frame.frameId ∧ left.streamIndex = 0 ∧ right.streamIndex = 1

theorem Flows.kept {p p' : VideoPath V T G} (new : List FrameReady)
    (hintake : p'.intake = p.intake) (hway : List.Sublist (onWay p') (onWay p)) :
    Flows p p' new := by
  refine ⟨.inl ⟨?_, hway⟩⟩
  rw [hintake]
  exact List.sublist_append_left _ _

theorem path_flows {w : WireFormat V T G P} {p p' : VideoPath V T G}
    {e : VideoPath.Event V T G} (h : p.Tracks) (hs : p.step w e = some p') :
    Flows p p' (arrives e) := by
  cases VideoPath.step_moved hs with
  | quiet _ _ _ hq hpending =>
    have hway : onWay p' = onWay p := by
      have hprotected : p'.video.protectedEntries = p.video.protectedEntries := by
        rw [protectedEntries, protectedEntries, hq.sender]
      rw [onWay, onWay, VideoPath.unbegun, VideoPath.unbegun, hq.begun, hq.queued, hq.bridged,
        hprotected]
    refine ⟨.inl ⟨?_, by rw [hway]⟩⟩
    rw [incoming, incoming, hq.thread, List.append_assoc]
    refine (List.Sublist.refl _).append ?_
    cases hwaiting : p'.intake.pending with
    | none => exact List.nil_sublist _
    | some frame =>
      rcases hpending frame hwaiting with hkept | rfl
      · rw [hkept]
        exact List.sublist_append_left _ _
      · exact List.sublist_append_right _ _
  | encoder a i' hidle hreads hstep =>
    have hsub : List.Sublist (onWay (p.encoded a i')) (onWay p ++ (VideoPath.pushed p.intake a).1) := by
      have hpush := Traced.push_sublist p.bridge p.bridged (p.pushedTraced a)
      have hframes : Traced.frames (p.pushedTraced a) = (VideoPath.pushed p.intake a).1 :=
        p.pushedTraced_frames a
      rw [onWay, onWay, VideoPath.unbegun, VideoPath.unbegun, ← hframes]
      simp only [Traced.frames_append, List.append_assoc]
      refine (List.Sublist.refl _).append ((List.Sublist.refl _).append ?_)
      rw [← Traced.frames_append]
      exact hpush.map Traced.frame
    rcases stepped_pushes hstep with hnone | ⟨frame, left, right, hin, hpush, hids⟩
    · rw [hnone, List.append_nil] at hsub
      exact ⟨.inl ⟨(stepped_incoming hstep).trans (List.sublist_append_left _ _), hsub⟩⟩
    · rw [hpush] at hsub
      exact ⟨.inr ⟨frame, left, right, hin, hsub, hids⟩⟩
  | publish => exact .kept _ rfl (List.Sublist.refl _)
  | connect sender =>
    refine .kept _ rfl ?_
    rw [onWay, onWay, VideoPath.unbegun, VideoPath.unbegun]
    simp only [Traced.frames_append]
    exact (List.sublist_append_right _ _).trans (List.sublist_append_right _ _)
  | setup => exact .kept _ rfl (List.Sublist.refl _)
  | publishRequest => exact .kept _ rfl (List.Sublist.refl _)
  | answer _ r =>
    rcases p.answer_cases r with ⟨bridge, requests, -, hanswer⟩
    rw [hanswer]
    exact .kept _ rfl (List.Sublist.refl _)
  | look =>
    rcases p.look_cases with ⟨thread, generation, seen, description, sent, -, hlook⟩
    rw [hlook]
    exact .kept _ rfl (List.Sublist.refl _)
  | ask => exact .kept _ rfl (List.Sublist.refl _)
  | pump env view =>
    refine .kept _ rfl ?_
    have hsub := (h.pump_sublist (w := w) env view).map Traced.frame
    rw [List.map_append] at hsub
    have hbegun : (p.pump w env view).begun.map (fun b => b.traced.frame) =
        p.begun.map (fun b => b.traced.frame) ++
          (Traced.begunBy p.waiting p.video (p.pump w env view).video).map Traced.frame := by
      simp [VideoPath.pump, Function.comp_def]
    rw [onWay, onWay, hbegun, List.append_assoc]
    exact (List.Sublist.refl _).append hsub
  | disconnect =>
    refine .kept _ rfl ?_
    rw [onWay, onWay, VideoPath.unbegun, VideoPath.unbegun]
    simp only [Traced.frames_append]
    have hbridged := p.disconnect_bridged.map Traced.frame
    exact (hbridged.trans (List.sublist_append_right _ _)).trans (List.sublist_append_right _ _)

/-! ## What the controller and the tracker have heard of -/

/-- Both only know frames of this session, and the frame under way is one. -/
structure Heard (begun : List EncodedFrame) (v : Video V T G) (c : BitrateController) : Prop where
  newest : ∀ n, c.newest = some n → ∃ f ∈ begun, f.frameId = n
  firstP : v.idr.state = .running → ∃ f ∈ begun, f.frameId = v.idr.firstP
  underWay : v.sender.active = true → ∃ f ∈ begun, v.queue.head? = some f

theorem booked_frames (log : List (VideoEvent V T P)) :
    (booked log).map Prod.fst = Traced.finishedFrames log := by
  induction log with
  | nil => rfl
  | cons e log ih =>
    cases e with
    | finished f wireBytes =>
      simp only [booked, Traced.finishedFrames, Traced.ends, List.filterMap_cons, List.map_cons,
        List.filter_cons_of_pos] at ih ⊢
      rw [ih]
    | trimmed | skipped | begun | sent | aborted =>
      simpa [booked, Traced.finishedFrames, Traced.ends] using ih

/-- Booking frames makes one of them the newest, or none. -/
theorem foldl_book_newest (clock : EncodedFrame → ℤ) :
    ∀ (fs : List (EncodedFrame × ℕ)) (c : BitrateController) (n : ℕ),
      (fs.foldl (book clock) c).newest = some n →
        c.newest = some n ∨ ∃ f ∈ fs.map Prod.fst, f.frameId = n := by
  intro fs
  induction fs with
  | nil =>
    intro c n h
    exact .inl h
  | cons f fs ih =>
    intro c n h
    rcases ih (book clock c f) n h with hhere | ⟨g, hg, hn⟩
    · rcases c.onFrameBytes_newest f.1.frameId f.1.streamIndex f.2 (clock f.1) with hkept | hnew
      · exact .inl (hkept.symm.trans hhere)
      · refine .inr ⟨f.1, List.mem_cons_self, ?_⟩
        have hsome : some f.1.frameId = some n := hnew.symm.trans hhere
        exact Option.some.inj hsome
    · exact .inr ⟨g, List.mem_cons_of_mem _ hg, hn⟩

/-- The watch starts with a frame handed over, or has started. -/
theorem foldl_tell_firstP :
    ∀ (fs : List EncodedFrame) (t : IdrTracker), (fs.foldl Traced.tell t).state = .running →
      (t.state = .running ∧ (fs.foldl Traced.tell t).firstP = t.firstP) ∨
        ∃ f ∈ fs, f.frameId = (fs.foldl Traced.tell t).firstP := by
  intro fs
  induction fs with
  | nil =>
    intro t h
    exact .inl ⟨h, rfl⟩
  | cons f fs ih =>
    intro t h
    rcases ih (Traced.tell t f) h with ⟨hrunning, hfirst⟩ | ⟨g, hg, hfirst⟩
    · rw [List.foldl_cons, hfirst]
      cases hidr : f.idr with
      | true =>
        simp [Traced.tell, IdrTracker.onFrameSent, hidr] at hrunning
      | false =>
        simp only [Traced.tell, hidr] at hrunning ⊢
        rcases t.onFrameSent_p_cases f.frameId with ⟨-, hstart⟩ | ⟨-, hsame⟩
        · exact .inr ⟨f, List.mem_cons_self, by rw [hstart]⟩
        · rw [hsame] at hrunning ⊢
          exact .inl ⟨hrunning, rfl⟩
    · exact .inr ⟨g, List.mem_cons_of_mem f hg, hfirst⟩

/-- Feedback and `poll` never start the watch. -/
theorem answer_firstP (t : IdrTracker) (feedback : Feedback) (now : ℤ) :
    ((t.onFeedback feedback now).1.state = .running →
      t.state = .running ∧ (t.onFeedback feedback now).1.firstP = t.firstP) ∧
    (t.poll now).1.state = t.state ∧ (t.poll now).1.firstP = t.firstP := by
  refine ⟨?_, ?_⟩
  · intro h
    rcases t.onFeedback_cases feedback now with ⟨-, hask⟩ | ⟨-, -, -, hconfirm⟩ | ⟨-, hsame⟩
    · rw [hask, (IdrTracker.request_spec _ now).1] at h
      cases h
    · rw [hconfirm] at h
      cases h
    · rw [hsame] at h ⊢
      exact ⟨h, rfl⟩
  · unfold IdrTracker.poll
    split
    · exact ⟨rfl, rfl⟩
    · split
      · exact ⟨rfl, rfl⟩
      · exact ⟨rfl, rfl⟩

/-- A pump: what the two hear of was begun by it, or was under way. -/
theorem pump_heard {w : WireFormat V T G P} {p : VideoPath V T G} (htracks : p.Tracks)
    {c : BitrateController} (h : Heard (p.begun.map fun b => b.traced.frame) p.video c)
    (env : PumpEnv V T) (view : Foveation → EncodedFrame → V) (clock : EncodedFrame → ℤ) :
    Heard ((p.pump w env view).begun.map fun b => b.traced.frame) (p.pump w env view).video
      ((booked (pumpVideo w { env with viewInfo := view p.foveation } p.video
        p.bridge).2.2).foldl (book clock) c) := by
  have htold := Traced.pumpVideo_told w { env with viewInfo := view p.foveation } htracks.head
    p.bridge
  have hbegun : (p.pump w env view).begun.map (fun b => b.traced.frame) =
      p.begun.map (fun b => b.traced.frame) ++
        Video.begunFrames (pumpVideo w { env with viewInfo := view p.foveation } p.video
          p.bridge).2.2 := by
    rw [← (htracks.pumped env view).begun]
    simp [VideoPath.pump, Traced.frames, Function.comp_def]
  set r := pumpVideo w { env with viewInfo := view p.foveation } p.video p.bridge
  have hknown : ∀ f, (f ∈ Video.begunFrames r.2.2 ∨
      (p.video.sender.active = true ∧ p.video.queue.head? = some f)) →
      f ∈ (p.pump w env view).begun.map fun b => b.traced.frame := by
    intro f hf
    rw [hbegun]
    rcases hf with hnew | ⟨hactive, hhead⟩
    · exact List.mem_append_right _ hnew
    · rcases h.underWay hactive with ⟨g, hg, hsame⟩
      rw [hhead] at hsame
      cases hsame
      exact List.mem_append_left _ hg
  have hold : ∀ f ∈ p.begun.map (fun b => b.traced.frame),
      f ∈ (p.pump w env view).begun.map fun b => b.traced.frame := by
    intro f hf
    rw [hbegun]
    exact List.mem_append_left _ hf
  have hidr : (p.pump w env view).video.idr =
      (Traced.finishedFrames r.2.2).foldl Traced.tell p.video.idr := htold.idr
  refine ⟨?_, ?_, ?_⟩
  · intro n hn
    rcases foldl_book_newest clock _ c n hn with hkept | ⟨f, hf, hfn⟩
    · rcases h.newest n hkept with ⟨f, hf, hfn⟩
      exact ⟨f, hold f hf, hfn⟩
    · rw [booked_frames] at hf
      exact ⟨f, hknown f (htold.finished f hf), hfn⟩
  · intro hrunning
    rw [hidr] at hrunning ⊢
    rcases foldl_tell_firstP _ p.video.idr hrunning with ⟨hbefore, hfirst⟩ | ⟨f, hf, hfirst⟩
    · rcases h.firstP hbefore with ⟨f, hf, hff⟩
      exact ⟨f, hold f hf, by rw [hff, hfirst]⟩
    · exact ⟨f, hknown f (htold.finished f hf), hfirst⟩
  · intro hactive
    have hsome : p.video.sender.active = true → p.video.queue ≠ [] := by
      intro hunder
      rcases htracks.head hunder with ⟨f, rest, hcons, -⟩
      rw [hcons]
      exact List.cons_ne_nil f rest
    rcases htold.underWay hsome hactive with ⟨f, hhead, hf⟩
    exact ⟨f, hknown f hf, hhead⟩

/-! ## Whole runs -/

/-- The invariant. -/
structure Inv (s : Numbered V T G) : Prop where
  tracks : s.path.Tracks
  ordered : Ordered (onWay s.path) s.coming s.frameId
  heard : Heard s.begunFrames s.path.video s.bitrate
  room : s.frameId + BitrateController.frameRingSize < 2 ^ 64

/-- The vrserver restarts. -/
def Event.isRestart : Event V T G → Bool
  | .restart => true
  | _ => false

/-- A frame gets its id. -/
def Event.isPresent : Event V T G → Bool
  | .present _ _ _ _ _ => true
  | _ => false

/-- A vrserver only restarts when the session has begun nothing and nothing is on its way,
and the counter stays short of its end. -/
def Kept (s : Numbered V T G) (e : Event V T G) (_ : Numbered V T G) : Prop :=
  (e.isRestart = true → onWay s.path = [] ∧ incoming s.path.intake = [] ∧ s.pipe = []) ∧
    (e.isPresent = true → s.frameId + 1 + BitrateController.frameRingSize < 2 ^ 64)

instance (s : Numbered V T G) (e : Event V T G) (s' : Numbered V T G) : Decidable (Kept s e s') :=
  inferInstanceAs (Decidable (_ ∧ _))

/-- What flows on the video path keeps the order. -/
theorem Ordered.flows {p p' : VideoPath V T G} {new rest : List FrameReady} {last : ℕ}
    (h : Ordered (onWay p) (incoming p.intake ++ new ++ rest) last) (hf : Flows p p' new) :
    Ordered (onWay p') (incoming p'.intake ++ rest) last := by
  rcases hf.moves with ⟨hin, hway⟩ | ⟨frame, left, right, hin, hway, hleft, hright, hl, hr⟩
  · exact h.sublist hway (hin.append (List.Sublist.refl rest))
  · rw [hin, List.append_assoc, List.cons_append] at h
    have heyes : left.streamIndex ≠ right.streamIndex := by
      rw [hl, hr]
      decide
    refine (h.push hleft hright heyes).sublist hway ?_
    exact (List.Sublist.refl _).append (List.sublist_append_right new rest)

theorem Heard.of_eq {begun : List EncodedFrame} {v v' : Video V T G} {c : BitrateController}
    (h : Heard begun v c) (hidr : v'.idr = v.idr) (hsender : v'.sender = v.sender)
    (hqueue : v'.queue = v.queue) : Heard begun v' c := by
  refine ⟨h.newest, ?_, ?_⟩
  · rw [hidr]
    exact h.firstP
  · rw [hsender, hqueue]
    exact h.underWay

/-- Nothing begun, nothing heard of. -/
theorem heard_nothing {v : Video V T G} (hstate : v.idr.state ≠ .running)
    (hidle : v.sender.active = false) : Heard [] v {} := by
  refine ⟨?_, ?_, ?_⟩
  · intro n hn
    cases hn
  · intro hrunning
    exact absurd hrunning hstate
  · intro hactive
    rw [hidle] at hactive
    cases hactive

/-- An event on the video path. -/
theorem path_heard {w : WireFormat V T G P} {s : Numbered V T G} {p' : VideoPath V T G}
    {e : VideoPath.Event V T G} (htracks : s.path.Tracks)
    (h : Heard s.begunFrames s.path.video s.bitrate) (hreports : s.reports e = true)
    (hs : s.path.step w e = some p') (clock : EncodedFrame → ℤ) :
    Heard (p'.begun.map fun b => b.traced.frame) p'.video (bitrateAfter w s clock e) := by
  cases VideoPath.step_moved hs with
  | quiet _ _ he hq =>
    have hsame : bitrateAfter w s clock e = s.bitrate := by
      cases e <;> first | rfl | cases he
    rw [hsame, hq.begun]
    exact h.of_eq hq.idr hq.sender hq.queue
  | encoder | publish | publishRequest => exact h.of_eq rfl rfl rfl
  | connect sender => exact heard_nothing (by simp [VideoPath.connect]) rfl
  | setup | ask =>
    -- the tracker starts over, and hears of nothing until the next key frame
    refine ⟨h.newest, ?_, h.underWay⟩
    intro hrunning
    cases hrunning
  | answer _ r hlooping hr =>
    rcases s.path.answer_cases r with ⟨bridge, requests, -, hanswer⟩
    rw [hanswer]
    rcases hr with ⟨feedback, now, rfl, rfl⟩ | ⟨now, rfl, rfl⟩
    · refine ⟨?_, ?_, h.underWay⟩
      · intro n hn
        rcases s.bitrate.onFeedback_newest feedback s.path.video.framePeriodNs true now with
          hkept | hnew
        · exact h.newest n (hkept.symm.trans hn)
        · have hsome : some feedback.frameIndex = some n := hnew.symm.trans hn
          rcases List.any_eq_true.mp hreports with ⟨f, hf, hid⟩
          exact ⟨f, hf, (of_decide_eq_true hid).trans (Option.some.inj hsome)⟩
      · intro hrunning
        rcases (answer_firstP s.path.video.idr feedback now).1 hrunning with ⟨hbefore, hfirst⟩
        rcases h.firstP hbefore with ⟨f, hf, hff⟩
        exact ⟨f, hf, hff.trans hfirst.symm⟩
    · have hpoll := (answer_firstP s.path.video.idr {frameIndex := 0} now).2
      refine ⟨h.newest, ?_, h.underWay⟩
      intro hrunning
      rcases h.firstP (hpoll.1.symm.trans hrunning) with ⟨f, hf, hff⟩
      exact ⟨f, hf, hff.trans hpoll.2.symm⟩
  | look =>
    rcases s.path.look_cases with ⟨thread, generation, seen, description, sent, -, hlook⟩
    rw [hlook]
    exact h
  | pump env view => exact pump_heard htracks h env view clock
  | disconnect => exact heard_nothing (by simp [VideoPath.disconnect]) rfl

theorem init_inv (hasEncoder : Bool) (sender : PacedSender V T G) :
    (init hasEncoder sender).Inv := by
  refine ⟨VideoPath.init_tracks hasEncoder sender, ?_,
    heard_nothing (by simp [init, VideoPath.init]) rfl, ?_⟩
  case refine_2 =>
    change 0 + BitrateController.frameRingSize < 2 ^ 64
    decide
  have hnone : onWay (init hasEncoder sender : Numbered V T G).path = [] := by
    simp [onWay, init, VideoPath.init, VideoPath.unbegun]
  rw [hnone]
  refine ⟨List.Pairwise.nil, List.Pairwise.nil, ?_, ?_, ?_⟩
  · intro f hf
    cases hf
  · intro f hf
    cases hf
  · intro r hr
    cases hr

theorem step_inv {w : WireFormat V T G P} (s : Numbered V T G) (e : Event V T G)
    (s' : Numbered V T G) (h : s.Inv) (hkept : Kept s e s') (hs : step w s e = some s') :
    s'.Inv := by
  cases e with
  | present qpc generation index pose predictS =>
    have hroom := hkept.2 rfl
    have hnext : (s.frameId + 1) % 2 ^ 64 = s.frameId + 1 := by
      refine Nat.mod_eq_of_lt ?_
      omega
    simp only [step] at hs
    split at hs
    · cases hs
    · rename_i hhand
      cases hs
      refine ⟨h.tracks, ?_, h.heard, ?_⟩
      · have hordered := h.ordered
        rw [coming, hhand, Option.toList_none, List.append_nil] at hordered
        change Ordered _ (_ ++ [_]) _
        rw [hnext]
        exact hordered.present rfl
      · change (s.frameId + 1) % 2 ^ 64 + _ < _
        rw [hnext]
        exact hroom
  | send queued =>
    simp only [step] at hs
    split at hs
    · cases hs
    · rename_i frame hhand
      have hordered := h.ordered
      rw [coming, hhand] at hordered
      split at hs
      · cases hs
        refine ⟨h.tracks, ?_, h.heard, h.room⟩
        rw [coming, Option.toList_none, List.append_nil, ← List.append_assoc]
        exact hordered
      · cases hs
        refine ⟨h.tracks, ?_, h.heard, h.room⟩
        rw [coming, Option.toList_none, List.append_nil]
        exact hordered.sublist (List.Sublist.refl _) (List.sublist_append_left _ _)
  | link =>
    simp only [step] at hs
    split at hs
    · cases hs
      exact ⟨h.tracks, h.ordered, h.heard, h.room⟩
    · cases hs
  | deliver =>
    simp only [step] at hs
    split at hs
    · cases hs
    · rename_i frame rest hpipe
      rcases Option.map_eq_some_iff.mp hs with ⟨p', hp', rfl⟩
      refine ⟨VideoPath.step_tracks h.tracks hp', ?_, ?_, h.room⟩
      · have hordered := h.ordered
        have hall : s.coming = incoming s.path.intake ++ [frame] ++ (rest ++ s.hand.toList) := by
          rw [coming, hpipe]
          simp
        rw [hall] at hordered
        have hflows := hordered.flows (path_flows h.tracks hp')
        rw [← List.append_assoc] at hflows
        exact hflows
      · exact path_heard h.tracks h.heard rfl hp' fun _ => 0
  | hangUp =>
    simp only [step] at hs
    split at hs
    · cases hs
    · rcases Option.map_eq_some_iff.mp hs with ⟨p', hp', rfl⟩
      refine ⟨VideoPath.step_tracks h.tracks hp', ?_, ?_, h.room⟩
      · have hordered : Ordered (onWay s.path)
            (incoming s.path.intake ++ [] ++ s.hand.toList) s.frameId := by
          refine h.ordered.sublist (List.Sublist.refl _) ?_
          rw [coming, List.append_nil]
          exact (List.sublist_append_left _ _).append (List.Sublist.refl _)
        have hflows := hordered.flows (path_flows h.tracks hp')
        change Ordered _ (_ ++ [] ++ _) _
        rw [List.append_nil]
        exact hflows
      · exact path_heard h.tracks h.heard rfl hp' fun _ => 0
  | restart =>
    cases hs
    rcases hkept.1 rfl with ⟨hway, hincoming, hpipe⟩
    have hroom : 0 + BitrateController.frameRingSize < 2 ^ 64 := by decide
    refine ⟨h.tracks, ?_, h.heard, hroom⟩
    have hcoming : incoming s.path.intake ++ s.pipe ++ [] = [] := by
      rw [hincoming, hpipe]
      rfl
    change Ordered (onWay s.path) (incoming s.path.intake ++ s.pipe ++ []) 0
    rw [hway, hcoming]
    refine ⟨List.Pairwise.nil, List.Pairwise.nil, ?_, ?_, ?_⟩
    · intro f hf
      cases hf
    · intro f hf
      cases hf
    · intro r hr
      cases hr
  | configure conf ceiling enabled radio mode =>
    cases hs
    refine ⟨h.tracks, h.ordered, ⟨?_, h.heard.firstP, h.heard.underWay⟩, h.room⟩
    intro n hn
    cases hn
  | bitrate op =>
    simp only [step] at hs
    split at hs
    · rename_i halone
      cases hs
      refine ⟨h.tracks, h.ordered, ⟨?_, h.heard.firstP, h.heard.underWay⟩, h.room⟩
      intro n hn
      rcases s.bitrate.act_newest op hn with hkept | hnew
      · exact h.heard.newest n hkept
      · rw [of_decide_eq_true halone] at hnew
        cases hnew
    · cases hs
  | path e clock =>
    simp only [step] at hs
    split at hs
    · cases hs
    · rename_i hguard
      rcases Option.map_eq_some_iff.mp hs with ⟨p', hp', rfl⟩
      have hreports : s.reports e = true := by
        by_contra hnot
        exact hguard (.inr hnot)
      have harrives : arrives e = [] := by
        cases e <;> first | rfl | exact absurd (.inl rfl) hguard
      refine ⟨VideoPath.step_tracks h.tracks hp', ?_, ?_, h.room⟩
      · have hordered := h.ordered
        have hall : s.coming = incoming s.path.intake ++ [] ++ (s.pipe ++ s.hand.toList) := by
          rw [coming]
          simp
        rw [hall, ← harrives] at hordered
        have hflows := hordered.flows (path_flows h.tracks hp')
        rw [← List.append_assoc] at hflows
        exact hflows
      · exact path_heard h.tracks h.heard hreports hp' clock

/-- What was begun is in order, so nothing new is taken for old. -/
theorem Inv.indexed {s : Numbered V T G} (h : s.Inv) : s.Indexed := by
  have hbegun : s.begunFrames.Pairwise Before :=
    h.ordered.frames.sublist (List.sublist_append_left _ _)
  refine ⟨?_, ?_, ?_⟩
  · exact hbegun.imp fun hbefore => hbefore.2
  · intro f hf hring now
    have hgiven := h.ordered.framesGiven f (List.mem_append_left _ hf)
    have hroom := h.room
    refine BitrateController.trackFrame_ne_none (by omega) ?_ now
    intro n hn
    rcases h.heard.newest n hn with ⟨g, hg, rfl⟩
    exact hring g hg
  · intro f hlast hrunning
    rcases h.heard.firstP hrunning with ⟨g, hg, hfirst⟩
    rcases List.getLast?_eq_some_iff.mp hlast with ⟨front, hfront⟩
    rw [← hfirst]
    rw [hfront] at hg hbegun
    rcases List.mem_append.mp hg with hold | hhere
    · have hbefore := (List.pairwise_append.mp hbegun).2.2 g hold f (List.mem_singleton_self f)
      exact hbefore.1
    · rw [List.mem_singleton.mp hhere]

/-- In every run in which vrservers only restart when nothing of the one before was begun in
the session or is on its way, the indices increase and every new frame is listened to. -/
theorem indexed_of_kept (w : WireFormat V T G P) (hasEncoder : Bool) (sender : PacedSender V T G)
    (es : List (Event V T G)) {s : Numbered V T G}
    (hkept : Runs.Along (step w) Kept (init hasEncoder sender) es)
    (hrun : Runs.run (step w) (init hasEncoder sender) es = some s) : s.Indexed :=
  (Runs.run_invariant_along step_inv es _ s (init_inv hasEncoder sender) hkept hrun).indexed

/-! ## A restart during a session -/

open Pacing VideoPath

/-- What happens on the video path alone. -/
def along (es : List (VideoPath.Event Unit Unit Unit)) : List (Event Unit Unit Unit) :=
  es.map fun e => .path e fun _ => 0

/-- A frame of a ring is rendered, sent and delivered. -/
def rendering (generation : ℕ) : List (Event Unit Unit Unit) :=
  [.present 0 generation 0 {} (.val 0), .send true, .deliver]

/-- Frames that the pipe refuses; their ids are gone. -/
def refused (n : ℕ) : List (Event Unit Unit Unit) :=
  (List.replicate n [.present 0 1 0 {} (.val 0), .send false]).flatten

/-- A client and a shim come, and the first frame that the pipe takes is begun. -/
def firstFrameRun : List (Event Unit Unit Unit) :=
  along (arriving idleSender) ++
    [.configure { control := .bbr } 100000000 true true (some .bbr), .link] ++ refused 20 ++
    rendering 1 ++ along ([.encoder .wake] ++ configuring (ringOf 1 64 32) (requestOf 1) ++
      encoding ++ [.look, .ask, pumpNow])

theorem indexed_of_kept_first_frame :
    ∃ s, Runs.run (step burstWire) (init true idleSender) firstFrameRun = some s ∧
      s.begunFrames.map EncodedFrame.frameId = [21, 21] ∧ s.Indexed := by
  have hkept : Runs.Along (step burstWire) Kept (init true idleSender) firstFrameRun := by
    decide +kernel
  have hrun : (Runs.run (step burstWire) (init true idleSender) firstFrameRun).map (fun s =>
      s.begunFrames.map EncodedFrame.frameId) = some [21, 21] := by
    decide +kernel
  rcases Option.map_eq_some_iff.mp hrun with ⟨s, hs, hids⟩
  exact ⟨s, hs, hids, indexed_of_kept burstWire true idleSender firstFrameRun hkept hs⟩

/-- The vrserver restarts, its component counts from one again, and the session goes on. -/
def restartedRun : List (Event Unit Unit Unit) :=
  firstFrameRun ++ [.restart, .hangUp] ++
    along [.encoder .wake, .encoder .relock, .publish, .stagingConfig (ringOf 2 64 32)] ++
    [.link] ++ rendering 2 ++ along ([.encoder .wake] ++
      configuring (ringOf 2 64 32) (requestOf 2) ++ encoding ++ [.look, pumpNow])

/-- The new frame has the smaller index, and the controller takes it for an old one. -/
theorem restarted_index :
    ∃ es s, Runs.run (step burstWire) (init true idleSender) es = some s ∧ ¬ s.Indexed ∧
      ∃ f, s.begunFrames.getLast? = some f ∧ s.bitrate.trackFrame f.frameId 0 = none := by
  have hrun : (Runs.run (step burstWire) (init true idleSender) restartedRun).map (fun s =>
      (s.begunFrames.map fun f => (f.frameId, f.streamIndex), s.bitrate.newest,
        (s.bitrate.trackFrame 1 0).isNone)) =
      some ([(21, 0), (21, 1), (1, 0), (1, 1)], some 21, true) := by
    decide +kernel
  rcases Option.map_eq_some_iff.mp hrun with ⟨s, hs, hseen⟩
  rcases Prod.mk.injEq _ _ _ _ ▸ hseen with ⟨hids, hrest⟩
  rcases Prod.mk.injEq _ _ _ _ ▸ hrest with ⟨-, hdropped⟩
  refine ⟨restartedRun, s, hs, ?_, ?_⟩
  · intro hindexed
    have hpairs := hindexed.increasing
    have hmapped : (s.begunFrames.map fun f => (f.frameId, f.streamIndex)).Pairwise fun f g =>
        f.2 = g.2 → f.1 < g.1 := by
      rw [List.pairwise_map]
      exact hpairs
    rw [hids] at hmapped
    revert hmapped
    decide
  · have hlast : (s.begunFrames.map fun f => (f.frameId, f.streamIndex)).getLast? =
        some (1, 1) := by
      rw [hids]
      rfl
    rw [List.getLast?_map] at hlast
    rcases Option.map_eq_some_iff.mp hlast with ⟨f, hf, hid⟩
    refine ⟨f, hf, ?_⟩
    have hone : f.frameId = 1 := congrArg Prod.fst hid
    rw [hone]
    exact Option.isNone_iff_eq_none.mp hdropped

end Numbered

end WivrnNx
