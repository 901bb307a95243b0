import WivrnNx.VideoBridge
import WivrnNx.Session.IdrTracker
import WivrnNx.Session.ShardStream

/-!
# Moving encoded frames onto the socket

`Session::pump_video` (wivrn/session.cpp) with `begin_video_frame` and
`finish_video_frame`: the session's own bounded queue, the frame the paced sender
is working through, and the loop that goes on until the next micro-burst is not
due yet or nothing is left.

The pump is a function of what it finds on the bridge and of a `PumpEnv` (the
clock, what the frame descriptions come out as, and which sends throw). Next to
the new state it returns a log of what happened to which frame.
-/

namespace WivrnNx

/-- The session's side of the video path. -/
structure Video (V T G : Type*) where
  queue : List EncodedFrame := []
  sender : PacedSender V T G
  pacingSlot : PacingSlot := {}
  pacingEnabled : Bool := true
  pacingWindow : ℚ := 2 / 5
  framePeriodNs : ℤ := 11111111
  fecEnabled : Bool := false
  hasStreamSocket : Bool := true
  /-- Absolute time the next micro-burst is due, 0 when nothing is waiting. -/
  nextVideoDue : ℤ := 0
  idr : IdrTracker := {}
  framesSent : ℕ := 0
  shardsSent : ℕ := 0
  paritySent : ℕ := 0
  bytesSent : ℕ := 0
  sendErrors : ℕ := 0
  framesDropped : ℕ := 0
deriving DecidableEq, Repr

/-- What one `pump_video` meets: the monotonic clock, the descriptions of a frame
(poses and clock offset are other parts of the session), the stamp hook and the
sends that throw, by frame and offset. -/
structure PumpEnv (V T : Type*) where
  now : ℕ
  viewInfo : EncodedFrame → V
  timingInfo : EncodedFrame → T
  stamp : Option (T → T) := none
  throws : EncodedFrame → ℕ → Bool := fun _ _ => false

/-- What happened to a frame. -/
inductive VideoEvent (V T P : Type*) where
  | trimmed (f : EncodedFrame)
  | skipped (f : EncodedFrame)
  | begun (f : EncodedFrame)
  | sent (f : EncodedFrame) (call : SinkCall V T P)
  | aborted (f : EncodedFrame)
  | finished (f : EncodedFrame) (wireBytes : ℕ)
deriving DecidableEq, Repr

variable {V T G P : Type*}

namespace PumpEnv

/-- The sinks a frame is sent with. -/
def sinks (env : PumpEnv V T) (f : EncodedFrame) : Sinks T :=
  { stamp := env.stamp, throws := env.throws f }

end PumpEnv

namespace Video

/-- `kMaxVideoQueued`. -/
def maxVideoQueued : ℕ := 6

/-- The entries that the trim leaves alone: the one the sender works through. -/
def protectedEntries (v : Video V T G) : ℕ := if v.sender.active then 1 else 0

/-- What `take_frames` handed over joins the queue, which is then trimmed: oldest
first, by whole frames, behind the protected entry. -/
def enqueue (v : Video V T G) (taken : List EncodedFrame) : Video V T G :=
  if taken = [] then v
  else
    let queue := DropGroups.trimAt EncodedFrame.frameId v.protectedEntries maxVideoQueued
      (v.queue ++ taken)
    { v with queue := queue
             framesDropped := v.framesDropped + (v.queue.length + taken.length - queue.length) }

/-- The frame description that `begin_video_frame` hands to the sender. -/
def describe (v : Video V T G) (env : PumpEnv V T) (f : EncodedFrame) : Frame V T :=
  { streamIndex := f.streamIndex, frameIndex := f.frameId, idr := f.idr,
    hasStreamSocket := v.hasStreamSocket,
    fragmentOnControl := v.pacingEnabled && !v.hasStreamSocket, fec := v.fecEnabled,
    viewInfo := env.viewInfo f, timingInfo := env.timingInfo f }

/-- `begin_video_frame`, for the frame `f` with `behind` frames queued behind it.
The caller has checked that it has bytes. -/
def beginVideoFrame (w : WireFormat V T G P) (v : Video V T G) (env : PumpEnv V T)
    (f : EncodedFrame) (behind : ℕ) : Video V T G :=
  -- Not for an IDR, which the session and the headset are both waiting on
  let slot :=
    if v.pacingEnabled ∧ ¬ f.idr
    then v.pacingSlot.beginFrame env.now v.framePeriodNs v.pacingWindow behind
    else (v.pacingSlot, 0)
  { v with pacingSlot := slot.1
           sender := v.sender.begin w (v.describe env f) f.data
             (ShardPacer.make env.now slot.2 f.data.length) }

/-- `finish_video_frame`, but for the queue. -/
def finishVideoFrame (v : Video V T G) (f : EncodedFrame) : Video V T G :=
  { v with framesSent := v.framesSent + 1
           shardsSent := v.shardsSent + v.sender.shards
           paritySent := v.paritySent + v.sender.parityShards
           bytesSent := v.bytesSent + v.sender.wireBytes
           idr := v.idr.onFrameSent f.frameId f.idr }

/-- Whether the loop goes on to the next frame of the queue or returns. -/
inductive Next where
  | popped | stopped
deriving DecidableEq, Repr

/-- What one pump of the frame at the head comes to. -/
def pumpHead (w : WireFormat V T G P) (env : PumpEnv V T) (v : Video V T G) (f : EncodedFrame) :
    Video V T G × List (VideoEvent V T P) × Next :=
  let r := v.sender.pump w (env.sinks f) env.now
  let calls := r.calls.map (.sent f)
  match r.outcome with
  | .threw =>
    -- A frame lost to a socket error is one frame
    ({ v with sender := r.sender.abort, sendErrors := v.sendErrors + 1 },
      calls ++ [.aborted f], .popped)
  | .due due =>
    if (env.now : ℤ) < due then ({ v with sender := r.sender, nextVideoDue := due }, calls, .stopped)
    else if ¬ r.sender.active then
      (finishVideoFrame { v with sender := r.sender } f,
        calls ++ [.finished f r.sender.wireBytes], .popped)
    -- Never: a frame that is not over is due later (`pumpHead_spec`)
    else ({ v with sender := r.sender }, calls, .stopped)

/-- The frame at the head is begun, unless it is under way. -/
def startHead (w : WireFormat V T G P) (env : PumpEnv V T) (v : Video V T G) (f : EncodedFrame)
    (behind : ℕ) : Video V T G × List (VideoEvent V T P) :=
  if v.sender.active then (v, []) else (beginVideoFrame w v env f behind, [.begun f])

/-- The loop of `pump_video`, over the queue. -/
def pumpQueue (w : WireFormat V T G P) (env : PumpEnv V T) :
    List EncodedFrame → Video V T G → Video V T G × List (VideoEvent V T P)
  | [], v => ({ v with queue := [] }, [])
  | f :: rest, v =>
    if ¬ v.sender.active ∧ f.data = [] then
      -- A frame with no bytes: nothing to send, nothing to book
      let r := pumpQueue w env rest v
      (r.1, .skipped f :: r.2)
    else
      let started := startHead w env v f rest.length
      let head := pumpHead w env started.1 f
      match head.2.2 with
      | .stopped => ({ head.1 with queue := f :: rest }, started.2 ++ head.2.1)
      | .popped =>
        let r := pumpQueue w env rest head.1
        (r.1, started.2 ++ head.2.1 ++ r.2)

/-- The frames that `enqueue` dropped: those right behind the protected entry. -/
def trimmed (v : Video V T G) (taken : List EncodedFrame) : List EncodedFrame :=
  ((v.queue ++ taken).drop v.protectedEntries).take
    (v.queue.length + taken.length - (v.enqueue taken).queue.length)

/-- `pump_video`: takes what is on the bridge, trims, and hands over what is due. -/
def pumpVideo (w : WireFormat V T G P) (env : PumpEnv V T) (v : Video V T G)
    (b : VideoBridge) : Video V T G × VideoBridge × List (VideoEvent V T P) :=
  let (b, taken) := b.takeFrames
  let dropped := (v.trimmed taken).map VideoEvent.trimmed
  let v := v.enqueue taken
  let r := pumpQueue w env v.queue { v with nextVideoDue := 0 }
  (r.1, b, dropped ++ r.2)

/-! ## What a pump leaves -/

/-- The sender is part-way through `f`. -/
structure Loaded (s : PacedSender V T G) (f : EncodedFrame) : Prop where
  at' : ∃ k, s.At k
  frameIndex : s.frame.frameIndex = f.frameId
  streamIndex : s.frame.streamIndex = f.streamIndex
  idr : s.frame.idr = f.idr
  data : s.data = f.data

/-- A frame under way is the one at the head of the queue. -/
def Inv (v : Video V T G) : Prop :=
  v.sender.active = true → ∃ f rest, v.queue = f :: rest ∧ Loaded v.sender f

/-- The frames begun, in order. -/
def begunFrames (log : List (VideoEvent V T P)) : List EncodedFrame :=
  log.filterMap fun
    | .begun f => some f
    | _ => none

@[simp] theorem begunFrames_nil : begunFrames ([] : List (VideoEvent V T P)) = [] := rfl

@[simp] theorem begunFrames_append (xs ys : List (VideoEvent V T P)) :
    begunFrames (xs ++ ys) = begunFrames xs ++ begunFrames ys :=
  List.filterMap_append ..

/-- Nothing is begun in a log exactly when no event of it begins a frame. -/
theorem begunFrames_eq_nil_iff (log : List (VideoEvent V T P)) :
    begunFrames log = [] ↔ ∀ e ∈ log, (begunFrames [e]).isEmpty = true := by
  induction log with
  | nil => simp
  | cons e log ih =>
    rw [← List.singleton_append, begunFrames_append, List.append_eq_nil_iff, ih]
    simp

@[simp] theorem begunFrames_begun (f : EncodedFrame) (log : List (VideoEvent V T P)) :
    begunFrames (.begun f :: log) = f :: begunFrames log := rfl

@[simp] theorem begunFrames_skipped (f : EncodedFrame) (log : List (VideoEvent V T P)) :
    begunFrames (.skipped f :: log) = begunFrames log := rfl

@[simp] theorem begunFrames_sent (f : EncodedFrame) (calls : List (SinkCall V T P)) :
    begunFrames (calls.map (.sent f) : List (VideoEvent V T P)) = [] := by
  induction calls with
  | nil => rfl
  | cons c cs ih => simp [begunFrames]

@[simp] theorem begunFrames_trimmed (fs : List EncodedFrame) :
    begunFrames (fs.map .trimmed : List (VideoEvent V T P)) = [] := by
  induction fs with
  | nil => rfl
  | cons f fs ih => simp [begunFrames]

/-- A frame with bytes, once begun, is loaded. -/
theorem beginVideoFrame_loaded (w : WireFormat V T G P) (v : Video V T G) (env : PumpEnv V T)
    {f : EncodedFrame} (h : f.data ≠ []) (behind : ℕ) :
    Loaded (beginVideoFrame w v env f behind).sender f :=
  ⟨⟨0, PacedSender.begin_at w v.sender (v.describe env f) h _⟩, rfl, rfl, rfl, rfl⟩

/-- One pump of the loaded frame at the head: it stops part-way, due later, or
the frame leaves the queue, finished or aborted. -/
structure HeadPumped (env : PumpEnv V T) (f : EncodedFrame)
    (r : Video V T G × List (VideoEvent V T P) × Next) : Prop where
  stopped : r.2.2 = .stopped →
    Loaded r.1.sender f ∧ (env.now : ℤ) + ShardPacer.minSleepNs ≤ r.1.nextVideoDue
  popped : r.2.2 = .popped → r.1.sender.active = false
  begun : begunFrames r.2.1 = []

theorem pumpHead_spec (w : WireFormat V T G P) (env : PumpEnv V T) (v : Video V T G)
    {f : EncodedFrame} (h : Loaded v.sender f) : HeadPumped env f (pumpHead w env v f) := by
  obtain ⟨k, hat⟩ := h.at'
  have hpump := PacedSender.pump_resumes w (env.sinks f) (env.now : ℤ) hat
  simp only [pumpHead]
  rcases hpump.outcome with hthrew | ⟨hover, hzero⟩ | ⟨hact, -, due, hdue, hlater⟩
  · -- An exception: the frame is aborted and leaves the queue
    rw [hthrew]
    exact ⟨by simp, fun _ => rfl, by simp [begunFrames]⟩
  · -- Finished
    rw [hzero]
    simp only [if_neg (not_lt.mpr (Int.natCast_nonneg env.now)), hover, Bool.false_eq_true,
      not_false_eq_true, if_true]
    exact ⟨by simp, fun _ => hover, by simp [begunFrames]⟩
  · -- The next micro-burst is due later
    have hlt : (env.now : ℤ) < due := by
      have hmin : (0 : ℤ) < ShardPacer.minSleepNs := by decide
      omega
    obtain ⟨k', hat', -⟩ := hpump.stream (by simp [hdue])
    rw [hdue]
    simp only [if_pos hlt]
    refine ⟨fun _ => ⟨⟨⟨k', hat' hact⟩, ?_, ?_, ?_, ?_⟩, hlater⟩, by simp, by simp⟩
    · rw [hpump.frame.1, h.frameIndex]
    · rw [hpump.frame.1, h.streamIndex]
    · rw [hpump.frame.1, h.idr]
    · rw [hpump.frame.2, h.data]

/-- A pump that is due again later stops the loop and stores when. -/
theorem pumpHead_due (w : WireFormat V T G P) (env : PumpEnv V T) (v : Video V T G)
    (f : EncodedFrame) {due : ℤ} (hlater : (env.now : ℤ) < due)
    (h : (v.sender.pump w (env.sinks f) env.now).outcome = .due due) :
    (pumpHead w env v f).2.2 = .stopped ∧ (pumpHead w env v f).1.nextVideoDue = due := by
  simp [pumpHead, h, hlater]

/-- A pump that finishes its frame lets the loop go on. -/
theorem pumpHead_ends (w : WireFormat V T G P) (env : PumpEnv V T) (v : Video V T G)
    (f : EncodedFrame)
    (h : (v.sender.pump w (env.sinks f) env.now).outcome = .due 0 ∧
      (v.sender.pump w (env.sinks f) env.now).sender.active = false) :
    (pumpHead w env v f).2.2 = .popped := by
  simp [pumpHead, h.1, h.2, not_lt.mpr (Int.natCast_nonneg env.now)]

/-- What the loop leaves of a queue `q`: an end of it, whose head is under way and
due later, or nothing. -/
structure QueuePumped (env : PumpEnv V T) (q : List EncodedFrame) (v : Video V T G)
    (r : Video V T G × List (VideoEvent V T P)) : Prop where
  underWay : r.1.sender.active = true → ∃ f rest, r.1.queue = f :: rest ∧ Loaded r.1.sender f ∧
    (env.now : ℤ) + ShardPacer.minSleepNs ≤ r.1.nextVideoDue
  drained : r.1.sender.active = false → r.1.queue = []
  /-- The frames begun are those that left the queue and the one under way, but for
  the one that was under way before and those with no bytes. -/
  begun : ∃ done, q = done ++ r.1.queue ∧
    begunFrames r.2 = ((done ++ r.1.queue.take r.1.protectedEntries).drop v.protectedEntries).filter
      fun f => f.data ≠ []

@[simp] theorem protectedEntries_active {v : Video V T G} (h : v.sender.active = true) :
    v.protectedEntries = 1 := by
  simp [protectedEntries, h]

@[simp] theorem protectedEntries_inactive {v : Video V T G} (h : v.sender.active = false) :
    v.protectedEntries = 0 := by
  simp [protectedEntries, h]

/-- The frame at the head is loaded once it was begun or found under way. -/
theorem startHead_spec (w : WireFormat V T G P) (env : PumpEnv V T) {v : Video V T G}
    {f : EncodedFrame} (hskip : ¬ (v.sender.active = false ∧ f.data = []))
    (hloaded : v.sender.active = true → Loaded v.sender f) (behind : ℕ) :
    Loaded (startHead w env v f behind).1.sender f ∧
      begunFrames (startHead w env v f behind).2 =
        ([f].drop v.protectedEntries).filter fun f => f.data ≠ [] := by
  cases hact : v.sender.active with
  | true => exact ⟨by simpa [startHead, hact] using hloaded hact, by simp [startHead, hact]⟩
  | false =>
    have hdata : f.data ≠ [] := fun hnil => hskip ⟨hact, hnil⟩
    refine ⟨?_, by simp [startHead, hact, hdata]⟩
    simpa [startHead, hact] using beginVideoFrame_loaded w v env hdata behind

theorem pumpQueue_skip (w : WireFormat V T G P) (env : PumpEnv V T) {v : Video V T G}
    {f : EncodedFrame} (hidle : v.sender.active = false) (hdata : f.data = [])
    (rest : List EncodedFrame) :
    pumpQueue w env (f :: rest) v =
      ((pumpQueue w env rest v).1, .skipped f :: (pumpQueue w env rest v).2) := by
  rw [pumpQueue, if_pos (by simp [hidle, hdata])]

theorem pumpQueue_stopped (w : WireFormat V T G P) (env : PumpEnv V T) {v : Video V T G}
    {f : EncodedFrame} {rest : List EncodedFrame}
    (hskip : ¬ (v.sender.active = false ∧ f.data = []))
    (hnext : (pumpHead w env (startHead (P := P) w env v f rest.length).1 f).2.2 = .stopped) :
    pumpQueue w env (f :: rest) v =
      ({ (pumpHead w env (startHead (P := P) w env v f rest.length).1 f).1 with
          queue := f :: rest },
        (startHead w env v f rest.length).2 ++
          (pumpHead w env (startHead (P := P) w env v f rest.length).1 f).2.1) := by
  rw [pumpQueue, if_neg (by simpa using hskip)]
  simp only [hnext]

theorem pumpQueue_popped (w : WireFormat V T G P) (env : PumpEnv V T) {v : Video V T G}
    {f : EncodedFrame} {rest : List EncodedFrame}
    (hskip : ¬ (v.sender.active = false ∧ f.data = []))
    (hnext : (pumpHead w env (startHead (P := P) w env v f rest.length).1 f).2.2 = .popped) :
    pumpQueue w env (f :: rest) v =
      ((pumpQueue w env rest (pumpHead w env (startHead (P := P) w env v f rest.length).1 f).1).1,
        (startHead w env v f rest.length).2 ++
          (pumpHead w env (startHead (P := P) w env v f rest.length).1 f).2.1 ++
          (pumpQueue w env rest
            (pumpHead w env (startHead (P := P) w env v f rest.length).1 f).1).2) := by
  rw [pumpQueue, if_neg (by simpa using hskip)]
  simp only [hnext]

/-- A frame that is begun and has to pause ends the loop. -/
theorem pumpQueue_pauses (w : WireFormat V T G P) (env : PumpEnv V T) (rest : List EncodedFrame)
    {v : Video V T G} {f : EncodedFrame} {due : ℤ} (hidle : v.sender.active = false)
    (hdata : f.data ≠ []) (hlater : (env.now : ℤ) < due)
    (h : ((beginVideoFrame w v env f rest.length).sender.pump w (env.sinks f) env.now).outcome =
      .due due) :
    let r := pumpQueue w env (f :: rest) v
    r.1.queue = f :: rest ∧ r.1.nextVideoDue = due ∧ r.1.sender.active = true ∧
      r.1.sender =
        ((beginVideoFrame w v env f rest.length).sender.pump w (env.sinks f) env.now).sender := by
  have hskip : ¬ (v.sender.active = false ∧ f.data = []) := fun hboth => hdata hboth.2
  have hstart : startHead (P := P) w env v f rest.length =
      (beginVideoFrame w v env f rest.length, [.begun f]) := by
    simp [startHead, hidle]
  obtain ⟨hstop, hdue⟩ := pumpHead_due w env (beginVideoFrame w v env f rest.length) f hlater h
  have hloaded := beginVideoFrame_loaded w v env hdata rest.length
  obtain ⟨k, hat⟩ := ((pumpHead_spec w env _ hloaded).stopped hstop).1.at'
  rw [pumpQueue_stopped w env hskip (by rw [hstart]; exact hstop), hstart]
  refine ⟨rfl, hdue, hat.active, ?_⟩
  simp [pumpHead, h, hlater]

/-- A queue of frames that one shard each is enough for is drained at once. -/
theorem pumpQueue_drains (w : WireFormat V T G P) (env : PumpEnv V T)
    (hthrows : ∀ f offset, env.throws f offset = false) :
    ∀ (q : List EncodedFrame) (v : Video V T G), v.sender.active = false →
      (∀ f ∈ q, ∀ (v' : Video V T G) (behind : ℕ), f.data.length ≤
        PacedSender.takeBytes w (beginVideoFrame w v' env f behind).sender) →
      (pumpQueue w env q v).1.sender.active = false := by
  intro q
  induction q with
  | nil =>
    intro v hidle _
    exact hidle
  | cons f rest ih =>
    intro v hidle hwhole
    have hrest := fun f' hf' => hwhole f' (List.mem_cons_of_mem f hf')
    by_cases hdata : f.data = []
    · rw [pumpQueue_skip w env hidle hdata]
      exact ih v hidle hrest
    · have hskip : ¬ (v.sender.active = false ∧ f.data = []) := fun hboth => hdata hboth.2
      have hstart : startHead (P := P) w env v f rest.length =
          (beginVideoFrame w v env f rest.length, [.begun f]) := by
        simp [startHead, hidle]
      have hloaded := beginVideoFrame_loaded w v env hdata rest.length
      have hat : (beginVideoFrame w v env f rest.length).sender.At 0 :=
        PacedSender.begin_at w v.sender (v.describe env f) hdata _
      have hlast := hwhole f List.mem_cons_self v rest.length
      have hpopped := pumpHead_ends w env _ f
        (PacedSender.pump_ends w (env.sinks f) env.now hat (hthrows f _)
          (hlast.trans (Nat.le_add_left _ _)))
      rw [pumpQueue_popped w env hskip (by rw [hstart]; exact hpopped), hstart]
      exact ih _ ((pumpHead_spec w env _ hloaded).popped hpopped) hrest

/-- The loop, from a queue whose head is the frame under way, if there is one. -/
theorem pumpQueue_spec (w : WireFormat V T G P) (env : PumpEnv V T) :
    ∀ (q : List EncodedFrame) (v : Video V T G),
      (v.sender.active = true → ∃ f rest, q = f :: rest ∧ Loaded v.sender f) →
      QueuePumped env q v (pumpQueue w env q v) := by
  intro q
  induction q with
  | nil =>
    intro v h
    have hidle : v.sender.active = false := by
      by_contra hact
      obtain ⟨f, rest, hnil, -⟩ := h (by simpa using hact)
      cases hnil
    refine ⟨?_, fun _ => rfl, ⟨[], rfl, by simp [pumpQueue]⟩⟩
    intro hact
    simp [pumpQueue, hidle] at hact
  | cons f rest ih =>
    intro v h
    by_cases hskip : v.sender.active = false ∧ f.data = []
    · -- A frame with no bytes leaves the queue unnoticed
      have hrest := ih v (fun hact => by simp [hskip.1] at hact)
      obtain ⟨done, hq, hbegun⟩ := hrest.begun
      rw [pumpQueue_skip w env hskip.1 hskip.2]
      refine ⟨hrest.underWay, hrest.drained, ⟨f :: done, ?_, ?_⟩⟩
      · rw [List.cons_append, ← hq]
      · rw [begunFrames_skipped, hbegun]
        simp [hskip.1, hskip.2]
    · -- The frame at the head is under way, or begun now
      have hhere : v.sender.active = true → Loaded v.sender f := by
        intro hact
        obtain ⟨f', rest', hq, hl⟩ := h hact
        cases hq
        exact hl
      obtain ⟨hloaded, hlog⟩ := startHead_spec (P := P) w env hskip hhere rest.length
      have hhead := pumpHead_spec w env _ hloaded
      cases hnext : (pumpHead w env (startHead (P := P) w env v f rest.length).1 f).2.2 with
      | stopped =>
        obtain ⟨hl, hdue⟩ := hhead.stopped hnext
        obtain ⟨k, hat⟩ := hl.at'
        rw [pumpQueue_stopped w env hskip hnext]
        refine ⟨fun _ => ⟨f, rest, rfl, hl, hdue⟩, ?_, ⟨[], rfl, ?_⟩⟩
        · intro hidle
          simp [hat.active] at hidle
        · simp [hlog, hhead.begun, protectedEntries, hat.active]
      | popped =>
        have hidle := hhead.popped hnext
        have hrest := ih (pumpHead w env (startHead (P := P) w env v f rest.length).1 f).1
          (fun hact => by simp [hidle] at hact)
        obtain ⟨done, hq, hbegun⟩ := hrest.begun
        have hprot : v.protectedEntries ≤ [f].length := by
          unfold protectedEntries
          split <;> simp
        rw [pumpQueue_popped w env hskip hnext]
        refine ⟨hrest.underWay, hrest.drained, ⟨f :: done, ?_, ?_⟩⟩
        · rw [List.cons_append, ← hq]
        · simp only [begunFrames_append, hlog, hhead.begun, hbegun, List.append_nil,
            protectedEntries_inactive hidle, List.drop_zero, ← List.filter_append]
          change _ = List.filter _ (List.drop _ ([f] ++ _))
          rw [List.drop_append_of_le_length hprot]
          simp

theorem enqueue_queue (v : Video V T G) {taken : List EncodedFrame} (h : taken ≠ []) :
    (v.enqueue taken).queue = DropGroups.trimAt EncodedFrame.frameId v.protectedEntries
      maxVideoQueued (v.queue ++ taken) := by
  rw [enqueue, if_neg h]

/-- Whatever joins the queue, the frame under way stays at its head. -/
theorem enqueue_head {v : Video V T G} {f : EncodedFrame} {rest : List EncodedFrame}
    (hact : v.sender.active = true) (hq : v.queue = f :: rest) (taken : List EncodedFrame) :
    ∃ rest', (v.enqueue taken).queue = f :: rest' := by
  unfold enqueue
  split
  · exact ⟨rest, hq⟩
  · have hone : 1 ≤ (v.queue ++ taken).length := by simp [hq]
    have htake : (DropGroups.trimAt EncodedFrame.frameId 1 maxVideoQueued
        (v.queue ++ taken)).take 1 = (v.queue ++ taken).take 1 :=
      (DropGroups.trimAt_take EncodedFrame.frameId hone).1
    rw [hq, List.cons_append, List.take_succ_cons, List.take_zero] at htake
    simp only [protectedEntries_active hact, hq, List.cons_append]
    cases hl : DropGroups.trimAt EncodedFrame.frameId 1 maxVideoQueued (f :: (rest ++ taken)) with
    | nil => simp [hl] at htake
    | cons g rest' =>
      rw [hl, List.take_succ_cons, List.take_zero, List.cons.injEq] at htake
      exact ⟨rest', by rw [htake.1]⟩

@[simp] theorem enqueue_sender (v : Video V T G) (taken : List EncodedFrame) :
    (v.enqueue taken).sender = v.sender := by
  unfold enqueue
  split <;> rfl

/-- So the frame under way is still the one at the head. -/
@[simp] theorem enqueue_idr (v : Video V T G) (taken : List EncodedFrame) :
    (v.enqueue taken).idr = v.idr := by
  unfold enqueue
  split <;> rfl

theorem Inv.enqueue {v : Video V T G} (h : Inv v) (taken : List EncodedFrame) :
    Inv (v.enqueue taken) := by
  intro hact
  rw [enqueue_sender] at hact ⊢
  obtain ⟨f, rest, hq, hl⟩ := h hact
  obtain ⟨rest', hq'⟩ := enqueue_head hact hq taken
  exact ⟨f, rest', hq', hl⟩

/-- `pump_video` is the loop over the trimmed queue; trimming begins nothing. -/
theorem pumpVideo_eq (w : WireFormat V T G P) (env : PumpEnv V T) (v : Video V T G)
    (b : VideoBridge) {q : List EncodedFrame} (h : (v.enqueue b.frames).queue = q) :
    let r := pumpQueue w env q { v.enqueue b.frames with nextVideoDue := 0 }
    (pumpVideo w env v b).1 = r.1 ∧ (pumpVideo w env v b).2.1.frames = [] ∧
      begunFrames (pumpVideo w env v b).2.2 = begunFrames r.2 := by
  subst h
  refine ⟨rfl, rfl, ?_⟩
  change begunFrames ((v.trimmed b.frames).map .trimmed ++ _) = _
  rw [begunFrames_append, begunFrames_trimmed, List.nil_append]

/-- What `pump_video` leaves, from any state between two pumps. -/
theorem pumpVideo_spec (w : WireFormat V T G P) (env : PumpEnv V T) {v : Video V T G}
    (h : Inv v) (b : VideoBridge) :
    ∃ log, QueuePumped env (v.enqueue b.frames).queue v ((pumpVideo w env v b).1, log) ∧
      (pumpVideo w env v b).2.2 = (v.trimmed b.frames).map .trimmed ++ log := by
  have hspec := pumpQueue_spec w env (v.enqueue b.frames).queue
    { v.enqueue b.frames with nextVideoDue := 0 } (h.enqueue b.frames)
  obtain ⟨done, hdone, hbegun⟩ := hspec.begun
  have hprot : ({ v.enqueue b.frames with nextVideoDue := 0 } : Video V T G).protectedEntries =
      v.protectedEntries := by
    simp [protectedEntries]
  refine ⟨_, ⟨hspec.underWay, hspec.drained, ⟨done, hdone, ?_⟩⟩, rfl⟩
  rw [hbegun, hprot]
  rfl

/-- Between two pumps, the frame under way is the head of the queue and a due time
is stored for it. -/
theorem pumpVideo_inv (w : WireFormat V T G P) (env : PumpEnv V T) {v : Video V T G}
    (h : Inv v) (b : VideoBridge) :
    Inv (pumpVideo w env v b).1 ∧
      ((pumpVideo w env v b).1.sender.active = true →
        (env.now : ℤ) + ShardPacer.minSleepNs ≤ (pumpVideo w env v b).1.nextVideoDue) := by
  obtain ⟨log, hspec, -⟩ := pumpVideo_spec w env h b
  refine ⟨fun hact => ?_, fun hact => ?_⟩
  · obtain ⟨f, rest, hq, hl, -⟩ := hspec.underWay hact
    exact ⟨f, rest, hq, hl⟩
  · obtain ⟨f, rest, -, -, hdue⟩ := hspec.underWay hact
    exact hdue

/-- A pump that finds a frame under way begins with handing over some of it. -/
theorem pumpVideo_resumes (w : WireFormat V T G P) (env : PumpEnv V T) {v : Video V T G}
    (h : Inv v) (hact : v.sender.active = true) (b : VideoBridge) :
    ∃ f shard control before after, (pumpVideo w env v b).2.2 =
      before ++ .sent f (.data shard control) :: after ∧ begunFrames before = [] := by
  obtain ⟨f, rest, hq, hl⟩ := h hact
  obtain ⟨rest', hq'⟩ := enqueue_head hact hq b.frames
  obtain ⟨k, hat⟩ := hl.at'
  have hsends := (PacedSender.pump_resumes w (env.sinks f) (env.now : ℤ) hat).sends
  obtain ⟨cBefore, shard, control, cAfter, hcalls⟩ :=
    PacedSender.exists_data_of_dataCalls_ne_nil hsends
  have hhead : ∀ v' : Video V T G, v'.sender = v.sender →
      ∃ tail, (pumpHead w env v' f).2.1 =
        (PacedSender.pump w (env.sinks f) v.sender (env.now : ℤ)).calls.map (.sent f) ++ tail := by
    intro v' hv'
    simp only [pumpHead, hv']
    split
    · exact ⟨_, rfl⟩
    · split
      · exact ⟨[], (List.append_nil _).symm⟩
      · split
        · exact ⟨_, rfl⟩
        · exact ⟨[], (List.append_nil _).symm⟩
  set v₀ : Video V T G := { v.enqueue b.frames with nextVideoDue := 0 } with hv₀
  have hsender : v₀.sender = v.sender := by simp [hv₀]
  have hskip : ¬ (v₀.sender.active = false ∧ f.data = []) := by simp [hsender, hact]
  have hstart : startHead (P := P) w env v₀ f rest'.length = (v₀, []) := by
    simp [startHead, hsender, hact]
  obtain ⟨tail, htail⟩ := hhead v₀ hsender
  have hlog : ∃ after, (pumpQueue w env (f :: rest') v₀).2 =
      (pumpHead w env v₀ f).2.1 ++ after := by
    cases hnext : (pumpHead w env v₀ f).2.2 with
    | stopped =>
      rw [pumpQueue_stopped w env hskip (by rw [hstart]; exact hnext), hstart]
      exact ⟨[], by simp⟩
    | popped =>
      rw [pumpQueue_popped w env hskip (by rw [hstart]; exact hnext), hstart]
      exact ⟨_, rfl⟩
  obtain ⟨after, hafter⟩ := hlog
  refine ⟨f, shard, control,
    (v.trimmed b.frames).map .trimmed ++ cBefore.map (.sent f),
    cAfter.map (.sent f) ++ tail ++ after, ?_, ?_⟩
  · change (v.trimmed b.frames).map .trimmed ++
      (pumpQueue w env (v.enqueue b.frames).queue v₀).2 = _
    rw [hq', hafter, htail, hcalls]
    simp
  · simp [begunFrames_trimmed]

end Video

end WivrnNx
