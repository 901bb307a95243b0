import WivrnNx.Session.VideoPump

/-!
# Frames that carry where they come from

An observer of the two queues and the sender keeps, next to each encoded frame, what
it knows of the frame's origin. The queues only look at the frames, so the observer
follows them entry by entry.

- `push`, `enqueue`, `Pumped`: the bridge's queue, the session's queue, and what a pump
  makes of it: frames begun, frames handed over whole, frames left;
- `push_frames`, `enqueue_frames`, `pumped_begun`, `pumped_finished`, `pumped_queued`:
  without the origins, these are the bridge's and the session's own;
- `pumped_sublist`: frames are begun in the order they were queued in.
-/

namespace WivrnNx

/-- Where an encoded frame comes from. -/
structure Origin where
  /-- `stream_info` of the encoder that made it. -/
  info : EncoderStreamInfo
  /-- `force_idr` of the `encode` that made it. -/
  forceIdr : Bool
  /-- How many clients there had been when that call's request was read. -/
  client : ℕ
  /-- The stream that was published when it was pushed. -/
  stream : StreamState
deriving DecidableEq, Repr

/-- An encoded frame and its origin. -/
structure Traced where
  frame : EncodedFrame
  origin : Origin
deriving DecidableEq, Repr

namespace Traced

open Video

variable {V T G P : Type*}

/-- The key that both queues drop by. -/
def frameId (t : Traced) : ℕ := t.frame.frameId

/-- The frames of a list. -/
def frames (ts : List Traced) : List EncodedFrame := ts.map frame

@[simp] theorem frames_nil : frames [] = [] := rfl

@[simp] theorem frames_append (xs ys : List Traced) : frames (xs ++ ys) = frames xs ++ frames ys :=
  List.map_append

@[simp] theorem frames_length (ts : List Traced) : (frames ts).length = ts.length :=
  List.length_map frame

@[simp] theorem frames_eq_nil (ts : List Traced) : frames ts = [] ↔ ts = [] := List.map_eq_nil_iff

/-- `push_frames`. -/
def push (b : VideoBridge) (bridged new : List Traced) : List Traced :=
  if new = [] ∨ ¬ b.request.active then bridged
  else DropGroups.trimAt frameId 0 VideoBridge.maxQueued (bridged ++ new)

/-- What `take_frames` handed over joins the session's queue. -/
def enqueue (v : Video V T G) (queued taken : List Traced) : List Traced :=
  if taken = [] then queued
  else DropGroups.trimAt frameId v.protectedEntries maxVideoQueued (queued ++ taken)

/-- How the frames that left the queue left it: handed over whole, or not. -/
def ends (log : List (VideoEvent V T P)) : List (EncodedFrame × Bool) :=
  log.filterMap fun
    | .skipped f => some (f, false)
    | .aborted f => some (f, false)
    | .finished f _ => some (f, true)
    | _ => none

/-- The frames handed over whole. -/
def finishedFrames (log : List (VideoEvent V T P)) : List EncodedFrame :=
  ((ends log).filter Prod.snd).map Prod.fst

/-- How many entries of `waiting` a pump that leaves `v'` has worked through. -/
def gone (waiting : List Traced) (v' : Video V T G) : ℕ := waiting.length - v'.queue.length

/-- What a pump leaves in the queue. -/
def queuedAfter (waiting : List Traced) (v' : Video V T G) : List Traced :=
  waiting.drop (gone waiting v')

/-- What a pump begins: what it worked through and the frame under way, but for the
one that was under way before. -/
def begunBy (waiting : List Traced) (v v' : Video V T G) : List Traced :=
  ((waiting.take (gone waiting v' + v'.protectedEntries)).drop v.protectedEntries).filter
    fun t => t.frame.data ≠ []

/-- What a pump hands over whole. -/
def finishedBy (waiting : List Traced) (v' : Video V T G) (log : List (VideoEvent V T P)) :
    List Traced :=
  ((waiting.take (gone waiting v')).zip (ends log)).filterMap fun p =>
    if p.2.2 then some p.1 else none

/-! ## The queues -/

/-- Without the origins, the bridge's queue. -/
theorem push_frames {b : VideoBridge} {bridged : List Traced} (h : frames bridged = b.frames)
    (new : List Traced) : frames (push b bridged new) = (b.pushFrames (frames new)).frames := by
  rw [VideoBridge.pushFrames_frames, push]
  simp only [frames_eq_nil]
  split
  · exact h
  · rw [VideoBridge.queueAfterPush, ← h, ← frames_append]
    exact DropGroups.trimAt_map EncodedFrame.frameId frame 0 VideoBridge.maxQueued (bridged ++ new)

/-- Without the origins, the session's queue. -/
theorem enqueue_frames {v : Video V T G} {queued taken : List Traced}
    (hqueued : frames queued = v.queue) :
    frames (enqueue v queued taken) = (v.enqueue (frames taken)).queue := by
  unfold enqueue Video.enqueue
  simp only [frames_eq_nil]
  split
  · exact hqueued
  · have hmap := DropGroups.trimAt_map EncodedFrame.frameId frame v.protectedEntries
      maxVideoQueued (queued ++ taken)
    have hall : (queued ++ taken).map frame = v.queue ++ frames taken := by
      rw [List.map_append, ← hqueued]
      rfl
    rw [hall] at hmap
    exact hmap

/-- A push drops frames and adds the new ones behind. -/
theorem push_sublist (b : VideoBridge) (bridged new : List Traced) :
    List.Sublist (push b bridged new) (bridged ++ new) := by
  unfold push
  split
  · exact List.sublist_append_left bridged new
  · exact DropGroups.trimAt_sublist frameId 0 VideoBridge.maxQueued (bridged ++ new)

/-- So does the session's queue. -/
theorem enqueue_sublist (v : Video V T G) (queued taken : List Traced) :
    List.Sublist (enqueue v queued taken) (queued ++ taken) := by
  unfold enqueue
  split
  · exact List.sublist_append_left queued taken
  · exact DropGroups.trimAt_sublist frameId v.protectedEntries maxVideoQueued (queued ++ taken)

@[simp] theorem push_nil (b : VideoBridge) (bridged : List Traced) : push b bridged [] = bridged := by
  simp [push]

/-- A push that finds room only adds behind. -/
theorem push_fits {b : VideoBridge} {bridged new : List Traced}
    (hactive : b.request.active = true)
    (hfits : (bridged ++ new).length ≤ VideoBridge.maxQueued) :
    push b bridged new = bridged ++ new := by
  unfold push
  split
  · rename_i hnone
    rcases hnone with rfl | hinactive
    · rw [List.append_nil]
    · exact absurd hactive hinactive
  · exact DropGroups.trimAt_of_length_le _ _ hfits

/-- So does the session's queue. -/
theorem enqueue_fits {v : Video V T G} {queued taken : List Traced}
    (hfits : (queued ++ taken).length ≤ maxVideoQueued) :
    enqueue v queued taken = queued ++ taken := by
  unfold enqueue
  split
  · rename_i hnone
    rw [hnone, List.append_nil]
  · exact DropGroups.trimAt_of_length_le _ _ hfits

/-- Behind the protected entry, the trim leaves an end of what was there. -/
theorem enqueue_drop {v : Video V T G} {queued : List Traced}
    (h : v.protectedEntries ≤ queued.length) (taken : List Traced) :
    (enqueue v queued taken).drop v.protectedEntries <:+
      queued.drop v.protectedEntries ++ taken := by
  rw [← List.drop_append_of_le_length h]
  unfold enqueue
  split
  · rename_i hnone
    rw [hnone, List.append_nil]
  · refine DropGroups.trimAt_drop_suffix frameId ?_
    rw [List.length_append]
    omega

/-- The entries that the trim leaves alone stay. -/
theorem enqueue_take {v : Video V T G} {queued : List Traced}
    (h : v.protectedEntries ≤ queued.length) (taken : List Traced) :
    (enqueue v queued taken).take v.protectedEntries = queued.take v.protectedEntries := by
  unfold enqueue
  split
  · rfl
  · have hlong : v.protectedEntries ≤ (queued ++ taken).length := by
      rw [List.length_append]
      omega
    rw [(DropGroups.trimAt_take frameId hlong).1, List.take_append_of_le_length h]

/-! ## A pump -/

@[simp] theorem ends_append (xs ys : List (VideoEvent V T P)) :
    ends (xs ++ ys) = ends xs ++ ends ys :=
  List.filterMap_append ..

@[simp] theorem ends_sent (f : EncodedFrame) (calls : List (SinkCall V T P)) :
    ends (calls.map (.sent f) : List (VideoEvent V T P)) = [] := by
  induction calls with
  | nil => rfl
  | cons c cs ih => simp [ends]

@[simp] theorem ends_trimmed (fs : List EncodedFrame) :
    ends (fs.map .trimmed : List (VideoEvent V T P)) = [] := by
  induction fs with
  | nil => rfl
  | cons f fs ih => simp [ends]

/-- The frame at the head leaves the queue, one way or another, when the loop goes on. -/
theorem pumpHead_left (w : WireFormat V T G P) (env : PumpEnv V T) (v : Video V T G)
    (f : EncodedFrame) : (ends (pumpHead w env v f).2.1).map Prod.fst =
      match (pumpHead w env v f).2.2 with
      | .stopped => []
      | .popped => [f] := by
  unfold pumpHead
  dsimp only
  split
  · simp [ends]
  · split
    · simp
    · split
      · simp [ends]
      · simp

theorem startHead_left (w : WireFormat V T G P) (env : PumpEnv V T) (v : Video V T G)
    (f : EncodedFrame) (behind : ℕ) :
    ends (startHead (P := P) w env v f behind).2 = [] := by
  unfold startHead
  split
  · rfl
  · rfl

/-- The loop ends with the frames that left the queue, in order. -/
theorem pumpQueue_left (w : WireFormat V T G P) (env : PumpEnv V T) :
    ∀ (q : List EncodedFrame) (v : Video V T G),
      q = (ends (pumpQueue w env q v).2).map Prod.fst ++ (pumpQueue w env q v).1.queue := by
  intro q
  induction q with
  | nil =>
    intro v
    rfl
  | cons f rest ih =>
    intro v
    by_cases hskip : v.sender.active = false ∧ f.data = []
    · rw [pumpQueue_skip w env hskip.1 hskip.2]
      exact congrArg (f :: ·) (ih v)
    · have hleft := pumpHead_left w env (startHead (P := P) w env v f rest.length).1 f
      have hstart := startHead_left w env v f rest.length
      cases hnext : (pumpHead w env (startHead (P := P) w env v f rest.length).1 f).2.2 with
      | stopped =>
        rw [hnext] at hleft
        rw [pumpQueue_stopped w env hskip hnext, ends_append, hstart, List.nil_append, hleft]
        rfl
      | popped =>
        rw [hnext] at hleft
        rw [pumpQueue_popped w env hskip hnext, ends_append, ends_append, hstart,
          List.nil_append, List.map_append, hleft, List.append_assoc]
        exact congrArg (f :: ·) (ih _)

/-- Why a frame leaves the queue without having been handed over whole. -/
def Lost (env : PumpEnv V T) (f : EncodedFrame) : Prop :=
  f.data = [] ∨ ∃ k < f.data.length, env.throws f k = true

theorem pumpHead_lost (w : WireFormat V T G P) (env : PumpEnv V T) {v : Video V T G}
    {f : EncodedFrame} (hloaded : Loaded v.sender f) {g : EncodedFrame}
    (hg : (g, false) ∈ ends (pumpHead w env v f).2.1) : Lost env g := by
  unfold pumpHead at hg
  dsimp only at hg
  split at hg
  · rename_i hthrew
    rcases PacedSender.pump_threw hthrew with ⟨k, hk, hthrows⟩
    rw [hloaded.data] at hk
    rw [ends_append, ends_sent, List.nil_append] at hg
    rcases List.mem_singleton.mp hg with hsame
    cases hsame
    exact .inr ⟨k, hk, hthrows⟩
  · split at hg
    · rw [ends_sent] at hg
      cases hg
    · split at hg
      · rw [ends_append, ends_sent, List.nil_append] at hg
        rcases List.mem_singleton.mp hg with hsame
        cases hsame
      · rw [ends_sent] at hg
        cases hg

/-- The loop loses a frame that has no bytes, or one whose sending throws. -/
theorem pumpQueue_lost (w : WireFormat V T G P) (env : PumpEnv V T) {g : EncodedFrame} :
    ∀ (q : List EncodedFrame) (v : Video V T G),
      (v.sender.active = true → ∃ f rest, q = f :: rest ∧ Loaded v.sender f) →
      (g, false) ∈ ends (pumpQueue w env q v).2 → Lost env g := by
  intro q
  induction q with
  | nil =>
    intro v _ hg
    cases hg
  | cons f rest ih =>
    intro v hloaded hg
    by_cases hskip : v.sender.active = false ∧ f.data = []
    · rw [pumpQueue_skip w env hskip.1 hskip.2] at hg
      rcases List.mem_cons.mp hg with hhere | hlater
      · cases hhere
        exact .inl hskip.2
      · refine ih v ?_ hlater
        intro hactive
        rw [hskip.1] at hactive
        cases hactive
    · have hhead : Loaded (startHead (P := P) w env v f rest.length).1.sender f := by
        refine (startHead_spec (P := P) w env hskip ?_ rest.length).1
        intro hactive
        rcases hloaded hactive with ⟨f', rest', hcons, hl⟩
        cases hcons
        exact hl
      have hstart := startHead_left w env v f rest.length
      have hspec := pumpHead_spec w env _ hhead
      cases hnext : (pumpHead w env (startHead (P := P) w env v f rest.length).1 f).2.2 with
      | stopped =>
        rw [pumpQueue_stopped w env hskip hnext, ends_append, hstart, List.nil_append] at hg
        exact pumpHead_lost w env hhead hg
      | popped =>
        rw [pumpQueue_popped w env hskip hnext, ends_append, ends_append, hstart,
          List.nil_append] at hg
        rcases List.mem_append.mp hg with hhere | hlater
        · exact pumpHead_lost w env hhead hhere
        · refine ih _ ?_ hlater
          intro hactive
          rw [hspec.popped hnext] at hactive
          cases hactive

/-- The frames handed over by a part of a pump, then by the rest. -/
@[simp] theorem finishedFrames_append (xs ys : List (VideoEvent V T P)) :
    finishedFrames (xs ++ ys) = finishedFrames xs ++ finishedFrames ys := by
  simp [finishedFrames]

/-- What the tracker is told of. -/
def tell (t : IdrTracker) (f : EncodedFrame) : IdrTracker := t.onFrameSent f.frameId f.idr

/-- One pump of the frame at the head: the tracker hears of it when it was handed over
whole, and the loop goes on with an idle sender. -/
theorem pumpHead_tells (w : WireFormat V T G P) (env : PumpEnv V T) (v : Video V T G)
    (f : EncodedFrame) :
    (pumpHead w env v f).1.idr = (finishedFrames (pumpHead w env v f).2.1).foldl tell v.idr ∧
      (∀ g ∈ finishedFrames (pumpHead w env v f).2.1, g = f) ∧
      ((pumpHead w env v f).2.2 = .popped → (pumpHead w env v f).1.sender.active = false) := by
  unfold pumpHead
  dsimp only
  split
  · exact ⟨by simp [finishedFrames, ends], by simp [finishedFrames, ends], fun _ => rfl⟩
  · split
    · exact ⟨by simp [finishedFrames], by simp [finishedFrames], by simp⟩
    · split
      · rename_i hover
        refine ⟨by simp [finishedFrames, ends, finishVideoFrame, tell],
          by simp [finishedFrames, ends], ?_⟩
        intro _
        simpa [finishVideoFrame] using hover
      · exact ⟨by simp [finishedFrames], by simp [finishedFrames], by simp⟩

theorem startHead_tells (w : WireFormat V T G P) (env : PumpEnv V T) (v : Video V T G)
    (f : EncodedFrame) (behind : ℕ) :
    (startHead (P := P) w env v f behind).1.idr = v.idr ∧
      (f ∈ begunFrames (startHead (P := P) w env v f behind).2 ∨ v.sender.active = true) := by
  unfold startHead
  split
  · rename_i hactive
    exact ⟨rfl, .inr hactive⟩
  · exact ⟨rfl, .inl (by simp)⟩

/-- What a loop tells the tracker, and that it only goes on with frames it has begun or
found under way. -/
structure LoopTold (q : List EncodedFrame) (v : Video V T G)
    (r : Video V T G × List (VideoEvent V T P)) : Prop where
  idr : r.1.idr = (finishedFrames r.2).foldl tell v.idr
  finished : ∀ f ∈ finishedFrames r.2,
    f ∈ begunFrames r.2 ∨ (v.sender.active = true ∧ q.head? = some f)
  underWay : (v.sender.active = true → q ≠ []) → r.1.sender.active = true →
    ∃ f, r.1.queue.head? = some f ∧
      (f ∈ begunFrames r.2 ∨ (v.sender.active = true ∧ q.head? = some f))

theorem pumpQueue_told (w : WireFormat V T G P) (env : PumpEnv V T) :
    ∀ (q : List EncodedFrame) (v : Video V T G), LoopTold q v (pumpQueue w env q v) := by
  intro q
  induction q with
  | nil =>
    intro v
    refine ⟨rfl, by simp [pumpQueue, finishedFrames, ends], ?_⟩
    intro hsome hactive
    exact absurd rfl (hsome hactive)
  | cons f rest ih =>
    intro v
    by_cases hskip : v.sender.active = false ∧ f.data = []
    · -- A frame with no bytes: the tracker hears nothing
      have hrest := ih v
      have hidle : ¬ v.sender.active = true := by simp [hskip.1]
      rw [pumpQueue_skip w env hskip.1 hskip.2]
      refine ⟨?_, ?_, ?_⟩
      · simpa [finishedFrames, ends] using hrest.idr
      · intro g hg
        have hg' : g ∈ finishedFrames (pumpQueue w env rest v).2 := by
          simpa [finishedFrames, ends] using hg
        rcases hrest.finished g hg' with hbegun | hunder
        · exact .inl (by simpa using hbegun)
        · exact absurd hunder.1 hidle
      · intro _ hactive
        rcases hrest.underWay (fun h => absurd h hidle) hactive with ⟨g, hg, hbegun | hunder⟩
        · exact ⟨g, hg, .inl (by simpa using hbegun)⟩
        · exact absurd hunder.1 hidle
    · have hstart := startHead_tells w env v f rest.length
      have hhead := pumpHead_tells w env (startHead (P := P) w env v f rest.length).1 f
      have hends := startHead_left w env v f rest.length
      have hnone : finishedFrames (startHead (P := P) w env v f rest.length).2 = [] := by
        rw [finishedFrames, hends]
        rfl
      have horigin : ∀ later : List (VideoEvent V T P),
          f ∈ begunFrames ((startHead (P := P) w env v f rest.length).2 ++ later) ∨
            (v.sender.active = true ∧ (f :: rest).head? = some f) := by
        intro later
        rcases hstart.2 with hbegun | hactive
        · exact .inl (by simp [hbegun])
        · exact .inr ⟨hactive, rfl⟩
      cases hnext : (pumpHead w env (startHead (P := P) w env v f rest.length).1 f).2.2 with
      | stopped =>
        rw [pumpQueue_stopped w env hskip hnext]
        refine ⟨?_, ?_, ?_⟩
        · rw [finishedFrames_append, hnone, List.nil_append, ← hstart.1]
          exact hhead.1
        · intro g hg
          rw [finishedFrames_append, hnone, List.nil_append] at hg
          rw [hhead.2.1 g hg]
          exact horigin _
        · intro _ _
          exact ⟨f, rfl, horigin _⟩
      | popped =>
        have hrest := ih (pumpHead w env (startHead (P := P) w env v f rest.length).1 f).1
        have hidle : ¬ (pumpHead w env (startHead (P := P) w env v f rest.length).1
            f).1.sender.active = true := by
          simp [hhead.2.2 hnext]
        rw [pumpQueue_popped w env hskip hnext]
        refine ⟨?_, ?_, ?_⟩
        · rw [finishedFrames_append, finishedFrames_append, hnone, List.nil_append,
            List.foldl_append, ← hstart.1, ← hhead.1]
          exact hrest.idr
        · intro g hg
          rw [finishedFrames_append, finishedFrames_append, hnone, List.nil_append] at hg
          rcases List.mem_append.mp hg with hhere | hlater
          · rw [hhead.2.1 g hhere, List.append_assoc]
            exact horigin _
          · rcases hrest.finished g hlater with hbegun | hunder
            · exact .inl (by simp [hbegun])
            · exact absurd hunder.1 hidle
        · intro _ hactive
          rcases hrest.underWay (fun h => absurd h hidle) hactive with ⟨g, hg, hbegun | hunder⟩
          · exact ⟨g, hg, .inl (by simp [hbegun])⟩
          · exact absurd hunder.1 hidle

/-- So does a pump: the frame under way before is at the head of the queue. -/
theorem pumpVideo_told (w : WireFormat V T G P) (env : PumpEnv V T) {v : Video V T G}
    (h : Inv v) (b : VideoBridge) :
    LoopTold v.queue v ((pumpVideo w env v b).1, (pumpVideo w env v b).2.2) := by
  have htold := pumpQueue_told w env (v.enqueue b.frames).queue
    { v.enqueue b.frames with nextVideoDue := 0 }
  have hhead : ∀ f, v.sender.active = true → (v.enqueue b.frames).queue.head? = some f →
      v.queue.head? = some f := by
    intro f hactive hf
    rcases h hactive with ⟨g, rest, hcons, -⟩
    rcases enqueue_head hactive hcons b.frames with ⟨rest', hcons'⟩
    rw [hcons'] at hf
    rw [hcons]
    exact hf
  have hidr : (v.enqueue b.frames).idr = v.idr := by
    unfold Video.enqueue
    split <;> rfl
  have hactive : ({ v.enqueue b.frames with nextVideoDue := 0 } : Video V T G).sender.active =
      v.sender.active := by
    simp
  have hnone : finishedFrames ((v.trimmed b.frames).map .trimmed : List (VideoEvent V T P)) =
      [] := by
    simp [finishedFrames]
  have hlog : (pumpVideo w env v b).2.2 = (v.trimmed b.frames).map .trimmed ++
      (pumpQueue w env (v.enqueue b.frames).queue
        { v.enqueue b.frames with nextVideoDue := 0 }).2 := rfl
  refine ⟨?_, ?_, ?_⟩
  · rw [hlog, finishedFrames_append, hnone, List.nil_append, ← hidr]
    exact htold.idr
  · intro f hf
    rw [hlog, finishedFrames_append, hnone, List.nil_append] at hf
    rw [hlog, begunFrames_append, begunFrames_trimmed, List.nil_append]
    rcases htold.finished f hf with hbegun | ⟨hunder, hfirst⟩
    · exact .inl hbegun
    · rw [hactive] at hunder
      exact .inr ⟨hunder, hhead f hunder hfirst⟩
  · intro _ hafter
    have hsome : ({ v.enqueue b.frames with nextVideoDue := 0 } : Video V T G).sender.active =
        true → (v.enqueue b.frames).queue ≠ [] := by
      intro hunder
      rw [hactive] at hunder
      rcases h.enqueue b.frames (by simpa using hunder) with ⟨g, rest, hcons, -⟩
      rw [hcons]
      exact List.cons_ne_nil g rest
    rcases htold.underWay hsome hafter with ⟨f, hfirst, hbegun | ⟨hunder, hf⟩⟩
    · refine ⟨f, hfirst, .inl ?_⟩
      rw [hlog, begunFrames_append, begunFrames_trimmed, List.nil_append]
      exact hbegun
    · rw [hactive] at hunder
      exact ⟨f, hfirst, .inr ⟨hunder, hhead f hunder hf⟩⟩

/-- What the observer sees of a pump is what the pump did. -/
structure Pumped (w : WireFormat V T G P) (env : PumpEnv V T) (v : Video V T G) (b : VideoBridge)
    (waiting : List Traced) : Prop where
  /-- The frames that left, then the ones that are left. -/
  left : frames (waiting.take (gone waiting (pumpVideo w env v b).1)) =
    (ends (pumpVideo w env v b).2.2).map Prod.fst
  queued : frames (queuedAfter waiting (pumpVideo w env v b).1) = (pumpVideo w env v b).1.queue
  begun : frames (begunBy waiting v (pumpVideo w env v b).1) =
    begunFrames (pumpVideo w env v b).2.2
  finished : frames (finishedBy waiting (pumpVideo w env v b).1 (pumpVideo w env v b).2.2) =
    finishedFrames (pumpVideo w env v b).2.2

/-- Of two lists that go together, those that were handed over whole. -/
theorem frames_zip_filterMap :
    ∀ (ts : List Traced) (es : List (EncodedFrame × Bool)), frames ts = es.map Prod.fst →
      frames ((ts.zip es).filterMap fun p => if p.2.2 then some p.1 else none) =
        (es.filter Prod.snd).map Prod.fst := by
  intro ts
  induction ts with
  | nil =>
    intro es h
    rw [frames_nil, eq_comm, List.map_eq_nil_iff] at h
    rw [h]
    rfl
  | cons t ts ih =>
    intro es h
    cases es with
    | nil => cases h
    | cons e es =>
      have hcons : t.frame :: frames ts = e.1 :: es.map Prod.fst := h
      rw [List.cons.injEq] at hcons
      have hrest := ih es hcons.2
      rcases e with ⟨f, over'⟩
      cases over' with
      | false => simpa using hrest
      | true =>
        have hhead : t.frame = f := hcons.1
        simp only [List.zip_cons_cons, List.filterMap_cons, if_true, List.filter_cons_of_pos,
          List.map_cons]
        rw [← hrest, ← hhead]
        rfl

theorem pumpVideo_traced (w : WireFormat V T G P) (env : PumpEnv V T) {v : Video V T G}
    (h : Inv v) (b : VideoBridge) {waiting : List Traced}
    (hwaiting : frames waiting = (v.enqueue b.frames).queue) : Pumped w env v b waiting := by
  rcases pumpVideo_spec w env h b with ⟨log, hspec, hlog⟩
  rcases hspec.begun with ⟨done, hdone, hbegun⟩
  have hleft := pumpQueue_left w env (v.enqueue b.frames).queue
    { v.enqueue b.frames with nextVideoDue := 0 }
  have hends : ends (pumpVideo w env v b).2.2 = ends (pumpQueue w env (v.enqueue b.frames).queue
      { v.enqueue b.frames with nextVideoDue := 0 }).2 := by
    change ends ((v.trimmed b.frames).map .trimmed ++ _) = _
    rw [ends_append, ends_trimmed, List.nil_append]
  change _ = _ ++ (pumpVideo w env v b).1.queue at hleft
  rw [← hends] at hleft
  have hsame : done = (ends (pumpVideo w env v b).2.2).map Prod.fst := by
    have hboth := hdone.symm.trans hleft
    exact List.append_cancel_right hboth
  have hlength : waiting.length = done.length + (pumpVideo w env v b).1.queue.length := by
    rw [← frames_length, hwaiting, hdone, List.length_append]
  have hgone : gone waiting (pumpVideo w env v b).1 = done.length := by
    rw [gone, hlength]
    omega
  have htake : frames (waiting.take done.length) = done := by
    rw [frames, List.map_take]
    change (frames waiting).take _ = _
    rw [hwaiting, hdone, List.take_left]
  refine ⟨?_, ?_, ?_, ?_⟩
  · rw [hgone, htake, hsame]
  · rw [queuedAfter, hgone, frames, List.map_drop]
    change (frames waiting).drop _ = _
    rw [hwaiting, hdone, List.drop_left]
  · have hfilter : ∀ ts : List Traced, frames (ts.filter fun t => t.frame.data ≠ []) =
        (frames ts).filter fun f => f.data ≠ [] := by
      intro ts
      exact (List.filter_map (f := frame) (p := fun f => decide (f.data ≠ []))).symm
    rw [begunBy, hgone, hfilter, frames, List.map_drop, List.map_take]
    change List.filter _ (((frames waiting).take _).drop _) = _
    rw [hlog, begunFrames_append, begunFrames_trimmed, List.nil_append, hbegun, hwaiting, hdone,
      List.take_length_add_append]
  · rw [finishedBy, hgone, finishedFrames]
    exact frames_zip_filterMap _ _ (htake.trans hsame)

/-- A pump loses a frame that has no bytes, or one whose sending throws. -/
theorem pumpVideo_lost (w : WireFormat V T G P) (env : PumpEnv V T) {v : Video V T G}
    (h : Inv v) (b : VideoBridge) {g : EncodedFrame}
    (hg : (g, false) ∈ ends (pumpVideo w env v b).2.2) : Lost env g := by
  have hlog : ends (pumpVideo w env v b).2.2 = ends (pumpQueue w env (v.enqueue b.frames).queue
      { v.enqueue b.frames with nextVideoDue := 0 }).2 := by
    change ends ((v.trimmed b.frames).map .trimmed ++ _) = _
    rw [ends_append, ends_trimmed, List.nil_append]
  rw [hlog] at hg
  exact pumpQueue_lost w env _ { v.enqueue b.frames with nextVideoDue := 0 } (h.enqueue b.frames) hg

/-- A frame that is handed over and is no key frame serves no request. -/
theorem pumpHead_pending (w : WireFormat V T G P) (env : PumpEnv V T) {v : Video V T G}
    {f : EncodedFrame} (hidr : f.idr = false) (h : v.idr.pending = true) :
    (pumpHead w env v f).1.idr.pending = true := by
  unfold pumpHead
  dsimp only
  split
  · exact h
  · split
    · exact h
    · split
      · change (v.idr.onFrameSent f.frameId f.idr).pending = true
        rw [hidr]
        rcases v.idr.onFrameSent_p_cases f.frameId with ⟨-, hwatched⟩ | ⟨-, hsame⟩
        · rw [hwatched]
          exact h
        · rw [hsame]
          exact h
      · exact h

theorem startHead_idr (w : WireFormat V T G P) (env : PumpEnv V T) (v : Video V T G)
    (f : EncodedFrame) (behind : ℕ) : (startHead (P := P) w env v f behind).1.idr = v.idr := by
  unfold startHead
  split
  · rfl
  · rfl

theorem pumpQueue_pending (w : WireFormat V T G P) (env : PumpEnv V T) :
    ∀ (q : List EncodedFrame) (v : Video V T G), (∀ f ∈ q, f.idr = false) →
      v.idr.pending = true → (pumpQueue w env q v).1.idr.pending = true := by
  intro q
  induction q with
  | nil =>
    intro v _ h
    exact h
  | cons f rest ih =>
    intro v hidr h
    have hrest := fun g hg => hidr g (List.mem_cons_of_mem f hg)
    by_cases hskip : v.sender.active = false ∧ f.data = []
    · rw [pumpQueue_skip w env hskip.1 hskip.2]
      exact ih v hrest h
    · have hhead := pumpHead_pending w env
        (v := (startHead (P := P) w env v f rest.length).1) (hidr f List.mem_cons_self)
        ((congrArg IdrTracker.pending (startHead_idr w env v f rest.length)).trans h)
      cases hnext : (pumpHead w env (startHead (P := P) w env v f rest.length).1 f).2.2 with
      | stopped =>
        rw [pumpQueue_stopped w env hskip hnext]
        exact hhead
      | popped =>
        rw [pumpQueue_popped w env hskip hnext]
        exact ih _ hrest hhead

/-- The tracker holds a request until a key frame has been handed over. -/
theorem pumpVideo_pending (w : WireFormat V T G P) (env : PumpEnv V T) {v : Video V T G}
    (b : VideoBridge) (hidr : ∀ f ∈ (v.enqueue b.frames).queue, f.idr = false)
    (h : v.idr.pending = true) : (pumpVideo w env v b).1.idr.pending = true := by
  refine pumpQueue_pending w env _ { v.enqueue b.frames with nextVideoDue := 0 } hidr ?_
  change (v.enqueue b.frames).idr.pending = true
  rw [enqueue_idr]
  exact h

/-- Frames are begun in the order they were queued in: those begun, then those that are
still to be. -/
theorem pumpVideo_sublist (w : WireFormat V T G P) (env : PumpEnv V T) {v : Video V T G}
    (h : Inv v) (b : VideoBridge) {waiting : List Traced}
    (hwaiting : frames waiting = (v.enqueue b.frames).queue) :
    List.Sublist (begunBy waiting v (pumpVideo w env v b).1 ++
        (queuedAfter waiting (pumpVideo w env v b).1).drop (pumpVideo w env v b).1.protectedEntries)
      (waiting.drop v.protectedEntries) := by
  rcases pumpVideo_spec w env h b with ⟨log, hspec, -⟩
  set v' := (pumpVideo w env v b).1
  -- The frame that was under way has left, or still is
  have hpassed : v.protectedEntries ≤ gone waiting v' + v'.protectedEntries := by
    cases hact : v.sender.active with
    | false => simp [protectedEntries_inactive hact]
    | true =>
      rw [protectedEntries_active hact]
      cases hact' : v'.sender.active with
      | true => simp [protectedEntries_active hact']
      | false =>
        rcases h.enqueue b.frames (by simpa using hact) with ⟨f, rest, hcons, -⟩
        have hlong : waiting.length = rest.length + 1 := by
          rw [← frames_length, hwaiting, hcons, List.length_cons]
        have hempty : v'.queue = [] := hspec.drained hact'
        rw [gone, hempty, hlong, List.length_nil]
        omega
  have hrest : (queuedAfter waiting v').drop v'.protectedEntries =
      waiting.drop (gone waiting v' + v'.protectedEntries) := by
    rw [queuedAfter, List.drop_drop]
  have hall : (waiting.take (gone waiting v' + v'.protectedEntries)).drop v.protectedEntries ++
      waiting.drop (gone waiting v' + v'.protectedEntries) = waiting.drop v.protectedEntries := by
    rw [List.drop_take]
    have hdrop : waiting.drop (gone waiting v' + v'.protectedEntries) =
        (waiting.drop v.protectedEntries).drop
          (gone waiting v' + v'.protectedEntries - v.protectedEntries) := by
      rw [List.drop_drop, Nat.add_sub_cancel' hpassed]
    rw [hdrop, List.take_append_drop]
  rw [hrest, ← hall]
  exact List.filter_sublist.append (List.Sublist.refl _)

end Traced

end WivrnNx
