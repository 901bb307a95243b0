import WivrnNx.Session.PacingTurns

/-!
# Eye pairs on their way out

The encoder hands over both eyes of a frame or neither. Between it and the paced
sender stand two bounded queues, the bridge's and the session's, and each drops
"oldest first, by whole frames". This file follows the pairs through both:

- `Inv`: the bridge holds whole pairs, and so does the session's queue, but for a
  left eye that may have left it;
- `pairs_whole_of_kept`: while no trim takes the second eye of the pair whose
  first eye is under way, every pair is begun whole or not at all;
- `right_eye_trimmed`: a run in which a trim does take it.
-/

namespace WivrnNx

/-- Both eyes of one frame, as `AmfVideoEncoder::encode` hands them over. -/
structure EyePair where
  left : EncodedFrame
  right : EncodedFrame
  sameFrame : right.frameId = left.frameId
  leftStream : left.streamIndex = 0
  rightStream : right.streamIndex = 1

namespace EyePair

/-- The pair in the order it is pushed in. -/
def eyes (p : EyePair) : List EncodedFrame := [p.left, p.right]

/-- Either both eyes have bytes or neither has. -/
def Even (p : EyePair) : Prop := p.left.data = [] ↔ p.right.data = []

theorem eyes_frameId (p : EyePair) : ∀ f ∈ p.eyes, f.frameId = p.left.frameId := by
  intro f hf
  rcases List.mem_pair.mp hf with rfl | rfl
  · rfl
  · exact p.sameFrame

theorem eyes_ne_nil (p : EyePair) : p.eyes ≠ [] := List.cons_ne_nil _ _

/-- Both eyes of an even pair have bytes, or the pair goes. -/
theorem filter_eyes {p : EyePair} (h : p.Even) :
    p.eyes.filter (fun f => f.data ≠ []) = if p.left.data ≠ [] then p.eyes else [] := by
  have hright : p.right.data = [] ↔ p.left.data = [] := h.symm
  by_cases hleft : p.left.data = [] <;> simp [eyes, hright, hleft]

/-- Of a list of even pairs, those with bytes are pairs. -/
theorem filter_flatMap_eyes (ps : List EyePair) (h : ∀ p ∈ ps, p.Even) :
    (ps.flatMap eyes).filter (fun f => f.data ≠ []) =
      (ps.filter fun p => p.left.data ≠ []).flatMap eyes := by
  induction ps with
  | nil => rfl
  | cons p ps ih =>
    have hp := filter_eyes (h p List.mem_cons_self)
    have hps := ih fun p' hp' => h p' (List.mem_cons_of_mem p hp')
    rw [List.flatMap_cons, List.filter_append, hp, hps]
    by_cases hleft : p.left.data = [] <;> simp [hleft]

/-- Wherever pairs are cut, at most one pair is cut apart: `half` is its left eye. -/
theorem flatMap_eyes_split :
    ∀ (ps : List EyePair) (xs ys : List EncodedFrame), ps.flatMap eyes = xs ++ ys →
      ∃ as cs half, ps = as ++ cs ∧ xs = as.flatMap eyes ++ half ∧
        cs.flatMap eyes = half ++ ys ∧ half.length ≤ 1 := by
  intro ps
  induction ps with
  | nil =>
    intro xs ys h
    rcases List.append_eq_nil_iff.mp h.symm with ⟨rfl, rfl⟩
    exact ⟨[], [], [], rfl, rfl, rfl, Nat.zero_le 1⟩
  | cons p ps ih =>
    intro xs ys h
    rw [List.flatMap_cons] at h
    match xs, h with
    | [], h => exact ⟨[], p :: ps, [], rfl, rfl, h, Nat.zero_le 1⟩
    | [x], h => exact ⟨[], p :: ps, [x], rfl, rfl, h, le_rfl⟩
    | x :: y :: xs, h =>
      -- The whole pair stands before the cut
      have hcons : p.left :: p.right :: ps.flatMap eyes = x :: y :: (xs ++ ys) := h
      simp only [List.cons.injEq] at hcons
      rcases hcons with ⟨rfl, rfl, hrest⟩
      rcases ih xs ys hrest with ⟨as, cs, half, rfl, rfl, hcs, hhalf⟩
      exact ⟨p :: as, cs, half, rfl, rfl, hcs, hhalf⟩

end EyePair

namespace Pairs

open Video

variable {V T G P : Type*}

/-! ## The two queues and the sender -/

/-- The bridge, the session's side of the video path, and the frames that the
sender has begun so far. -/
structure State (V T G : Type*) where
  bridge : VideoBridge := {}
  video : Video V T G
  begun : List EncodedFrame := []

/-- What the encoder thread and the session thread do. -/
inductive Event (V T : Type*) where
  /-- `push_frames`: the encoder hands over a pair. -/
  | push (p : EyePair)
  /-- `set_client`, `clear_client`. -/
  | setClient (refreshHz : Flt) (allowH265 allowH264 : Bool)
  | clearClient
  /-- What the packet handlers leave of the transport settings. -/
  | settings (pacingEnabled : Bool) (pacingWindow : ℚ) (framePeriodNs : ℤ)
      (pacingSlot : PacingSlot) (fecEnabled hasStreamSocket : Bool)
  /-- `pump_video`, which does the `take_frames`. -/
  | pump (env : PumpEnv V T)

/-- One event. -/
def step (w : WireFormat V T G P) (s : State V T G) : Event V T → Option (State V T G)
  | .push p => some { s with bridge := s.bridge.pushFrames p.eyes }
  | .setClient hz h265 h264 => some { s with bridge := s.bridge.setClient hz h265 h264 }
  | .clearClient => some { s with bridge := s.bridge.clearClient }
  | .settings enabled window period slot fec stream =>
    some { s with video := { s.video with
      pacingEnabled := enabled, pacingWindow := window, framePeriodNs := period,
      pacingSlot := slot, fecEnabled := fec, hasStreamSocket := stream } }
  | .pump env =>
    let r := pumpVideo w env s.video s.bridge
    some { bridge := r.2.1, video := r.1, begun := s.begun ++ begunFrames r.2.2 }

/-- Nothing is on its way. -/
def Drained (s : State V T G) : Prop :=
  s.bridge.frames = [] ∧ s.video.queue = [] ∧ s.video.sender.active = false

/-- For each frame id, both streams' frames were begun or neither was. -/
def PairsWhole (s : State V T G) : Prop :=
  ∀ id, (∃ f ∈ s.begun, f.frameId = id ∧ f.streamIndex = 0) ↔
    ∃ f ∈ s.begun, f.frameId = id ∧ f.streamIndex = 1

/-- The encoder's pairs are even, and no trim happens while the frame under way
has the other eye of its pair right behind it. -/
def PairKept (s : State V T G) (e : Event V T) (_ : State V T G) : Prop :=
  match e with
  | .push p => p.Even
  | .pump _ =>
    s.video.sender.active = true → s.bridge.frames ≠ [] →
      maxVideoQueued < (s.video.queue ++ s.bridge.frames).length →
        ∀ f g rest, s.video.queue = f :: g :: rest → g.frameId ≠ f.frameId
  | _ => True

/-! ## The invariant -/

/-- The bridge holds whole pairs. The session's queue, with `half` before it, does
too; what was begun is whole pairs, then of those queued ones what has left the
queue and the frame under way. -/
structure Inv (s : State V T G) : Prop where
  head : Video.Inv s.video
  idle : s.video.sender.active = false → s.video.queue = []
  bridge : ∃ ps : List EyePair, (∀ p ∈ ps, p.Even) ∧ s.bridge.frames = ps.flatMap EyePair.eyes
  pairs : ∃ (bs qs : List EyePair) (half : List EncodedFrame),
    (∀ p ∈ qs, p.Even) ∧ half.length ≤ 1 ∧
      qs.flatMap EyePair.eyes = half ++ s.video.queue ∧
      s.begun = bs.flatMap EyePair.eyes ++
        (half ++ s.video.queue.take s.video.protectedEntries).filter fun f => f.data ≠ []

theorem init_inv {b : VideoBridge} {v : Video V T G} (hb : b.frames = []) (hq : v.queue = [])
    (hidle : v.sender.active = false) : Inv { bridge := b, video := v, begun := [] } := by
  refine ⟨?_, fun _ => hq, ⟨[], by simp, hb⟩, ⟨[], [], [], by simp, Nat.zero_le 1, ?_, ?_⟩⟩
  · intro hact
    simp [hidle] at hact
  · simp [hq]
  · simp [hq]

/-- A push keeps whole pairs: those dropped are the oldest. -/
theorem queueAfterPush_pairs {b : VideoBridge} {ps : List EyePair}
    (hframes : b.frames = ps.flatMap EyePair.eyes) (p : EyePair) :
    ∃ ps' : List EyePair, ps' <:+ ps ++ [p] ∧ b.queueAfterPush p.eyes = ps'.flatMap EyePair.eyes := by
  have hall : b.frames ++ p.eyes = [] ++ (ps ++ [p]).flatMap EyePair.eyes := by
    simp [hframes]
  rcases DropGroups.trimAt_blocks EyePair.eyes_frameId EyePair.eyes_ne_nil
    VideoBridge.maxQueued [] (ps ++ [p]) with ⟨ps', hsuffix, htrim⟩
  refine ⟨ps', hsuffix, ?_⟩
  rw [VideoBridge.queueAfterPush, hall]
  simpa using htrim

/-- What joins the session's queue keeps it one of pairs, unless the trim takes the
other eye of the frame under way. -/
theorem enqueue_pairs {v : Video V T G} {qs ps : List EyePair} {half : List EncodedFrame}
    (hidle : v.sender.active = false ↔ v.queue = []) (hhalf : half.length ≤ 1)
    (hqueue : qs.flatMap EyePair.eyes = half ++ v.queue)
    (hkept : v.sender.active = true → ps.flatMap EyePair.eyes ≠ [] →
      maxVideoQueued < (v.queue ++ ps.flatMap EyePair.eyes).length →
        ∀ f g rest, v.queue = f :: g :: rest → g.frameId ≠ f.frameId) :
    ∃ qs' : List EyePair, (∀ p ∈ qs', p ∈ qs ++ ps) ∧
      qs'.flatMap EyePair.eyes = half ++ (v.enqueue (ps.flatMap EyePair.eyes)).queue := by
  by_cases hnone : ps.flatMap EyePair.eyes = []
  · refine ⟨qs, fun p hp => List.mem_append_left ps hp, ?_⟩
    rw [enqueue, if_pos hnone, hqueue]
  by_cases hfits : (v.queue ++ ps.flatMap EyePair.eyes).length ≤ maxVideoQueued
  · refine ⟨qs ++ ps, fun p hp => hp, ?_⟩
    rw [enqueue_queue v hnone, DropGroups.trimAt_of_length_le _ _ hfits, List.flatMap_append,
      hqueue, List.append_assoc]
  have hmem : ∀ ps' : List EyePair, ps' <:+ ps → ∀ p ∈ ps', p ∈ ps := fun _ hps' _ hp =>
    hps'.subset hp
  cases hact : v.sender.active with
  | false =>
    -- Nothing is queued: what joins is trimmed as it stands
    have hempty := hidle.mp hact
    rcases DropGroups.trimAt_blocks EyePair.eyes_frameId EyePair.eyes_ne_nil maxVideoQueued []
      ps with ⟨ps', hsuffix, htrim⟩
    have hqs : qs = [] := by
      rw [hempty, List.append_nil] at hqueue
      cases qs with
      | nil => rfl
      | cons q qs =>
        rw [← hqueue] at hhalf
        simp [EyePair.eyes] at hhalf
    have hhalfNil : half = [] := by
      rw [hqs, hempty, List.append_nil] at hqueue
      exact hqueue.symm
    refine ⟨ps', fun p hp => List.mem_append_right qs (hmem ps' hsuffix p hp), ?_⟩
    rw [enqueue_queue v hnone, hhalfNil, hempty, protectedEntries_inactive hact]
    exact htrim.symm
  | true =>
    have hlong := not_le.mp hfits
    cases half with
    | nil =>
      cases qs with
      | nil =>
        have hover := hidle.mpr hqueue.symm
        simp [hact] at hover
      | cons q qs =>
        -- The left eye is under way with the right eye behind it: excluded
        exact absurd q.sameFrame (hkept hact hnone hlong q.left q.right _ hqueue.symm)
    | cons f half =>
      have hone : half = [] := List.eq_nil_of_length_eq_zero (by simpa using hhalf)
      subst hone
      cases qs with
      | nil => cases hqueue
      | cons q qs =>
        -- The right eye is under way: behind it stand whole pairs
        have hcons : q.left :: q.right :: qs.flatMap EyePair.eyes = f :: v.queue := hqueue
        simp only [List.cons.injEq] at hcons
        rcases hcons with ⟨rfl, hright⟩
        rcases DropGroups.trimAt_blocks EyePair.eyes_frameId EyePair.eyes_ne_nil maxVideoQueued
          [q.right] (qs ++ ps) with ⟨qs', hsuffix, htrim⟩
        refine ⟨q :: qs', ?_, ?_⟩
        · intro p hp
          rcases List.mem_cons.mp hp with rfl | hp
          · exact List.mem_append_left ps List.mem_cons_self
          · exact List.mem_cons_of_mem q (hsuffix.subset hp)
        · rw [List.flatMap_append] at htrim
          rw [enqueue_queue v hnone, protectedEntries_active hact, ← hright]
          exact congrArg (q.left :: ·) htrim.symm

/-- Whatever joins the queue, the frame under way stays where it is. -/
theorem enqueue_take {v : Video V T G} (h : v.protectedEntries ≤ v.queue.length)
    (taken : List EncodedFrame) :
    (v.enqueue taken).queue.take v.protectedEntries = v.queue.take v.protectedEntries := by
  by_cases hnone : taken = []
  · rw [enqueue, if_pos hnone]
  · have hlong : v.protectedEntries ≤ (v.queue ++ taken).length := by
      rw [List.length_append]
      omega
    rw [enqueue_queue v hnone, (DropGroups.trimAt_take _ hlong).1,
      List.take_append_of_le_length h]

/-- The frames under way before and after a pump, among those it went through. -/
theorem take_protected {α : Type*} {n m : ℕ} (hn : n ≤ 1) {xs ys : List α}
    (hm : m = 0 → ys = []) : (xs ++ ys.take m).take n = (xs ++ ys).take n := by
  cases xs with
  | cons x xs =>
    rw [List.take_append_of_le_length (by simp; omega),
      List.take_append_of_le_length (by simp; omega)]
  | nil =>
    rcases Nat.eq_zero_or_pos m with hzero | hpos
    · simp [hm hzero]
    · rw [List.nil_append, List.nil_append, List.take_take, min_eq_left (by omega)]

theorem protectedEntries_le_one (v : Video V T G) : v.protectedEntries ≤ 1 := by
  unfold protectedEntries
  split <;> simp

/-- The sender is idle exactly when the queue is empty. -/
theorem Inv.idle_iff {s : State V T G} (h : Inv s) :
    s.video.sender.active = false ↔ s.video.queue = [] := by
  constructor
  · exact h.idle
  · intro hempty
    by_contra hact
    rcases h.head (by simpa using hact) with ⟨f, rest, hqueue, -⟩
    rw [hempty] at hqueue
    cases hqueue

/-- A pump that keeps the pair under way keeps the invariant. -/
theorem pump_inv (w : WireFormat V T G P) (env : PumpEnv V T) {s : State V T G} (h : Inv s)
    (hkept : s.video.sender.active = true → s.bridge.frames ≠ [] →
      maxVideoQueued < (s.video.queue ++ s.bridge.frames).length →
        ∀ f g rest, s.video.queue = f :: g :: rest → g.frameId ≠ f.frameId) :
    Inv { bridge := (pumpVideo w env s.video s.bridge).2.1
          video := (pumpVideo w env s.video s.bridge).1
          begun := s.begun ++ begunFrames (pumpVideo w env s.video s.bridge).2.2 } := by
  rcases pumpVideo_spec w env h.head s.bridge with ⟨log, hspec, hlog⟩
  rcases h.bridge with ⟨ps, hps, hframes⟩
  rcases h.pairs with ⟨bs, qs, half, heven, hhalf, hqueue, hbegun⟩
  rw [hframes] at hkept
  rcases enqueue_pairs h.idle_iff hhalf hqueue hkept with ⟨qs', hqs', hflat⟩
  rw [← hframes] at hflat
  rcases hspec.begun with ⟨done, hdone, hdoneLog⟩
  have hcut : qs'.flatMap EyePair.eyes =
      (half ++ done) ++ (pumpVideo w env s.video s.bridge).1.queue := by
    rw [hflat, hdone, List.append_assoc]
  rcases EyePair.flatMap_eyes_split qs' _ _ hcut with ⟨as, cs, half', rfl, hleft, hcs, hhalf'⟩
  have hevenNew : ∀ p ∈ as ++ cs, p.Even := by
    intro p hp
    rcases List.mem_append.mp (hqs' p hp) with hq | hq
    · exact heven p hq
    · exact hps p hq
  -- The frame that was under way is the first of those the pump went through
  have hfits : s.video.protectedEntries ≤ s.video.queue.length := by
    cases hact : s.video.sender.active with
    | false => simp [hact]
    | true =>
      rcases h.head hact with ⟨f, rest, hcons, -⟩
      simp [hact, hcons]
  have hunderWay : s.video.queue.take s.video.protectedEntries =
      (done ++ (pumpVideo w env s.video s.bridge).1.queue.take
        (pumpVideo w env s.video s.bridge).1.protectedEntries).take s.video.protectedEntries := by
    rw [take_protected (protectedEntries_le_one _), ← hdone, enqueue_take hfits]
    intro hzero
    refine hspec.drained ?_
    by_contra hact
    simp [protectedEntries, hact] at hzero
  refine ⟨(pumpVideo_inv w env h.head s.bridge).1, hspec.drained, ⟨[], by simp, rfl⟩,
    ⟨bs ++ as.filter fun p => p.left.data ≠ [], cs, half',
      fun p hp => hevenNew p (List.mem_append_right as hp), hhalf', hcs, ?_⟩⟩
  have hnew : begunFrames (pumpVideo w env s.video s.bridge).2.2 = begunFrames log := by
    rw [hlog, begunFrames_append, begunFrames_trimmed, List.nil_append]
  rw [hnew, hdoneLog, hbegun, hunderWay, List.append_assoc, ← List.filter_append,
    List.append_assoc, List.take_append_drop, ← List.append_assoc, hleft, List.append_assoc,
    List.filter_append, EyePair.filter_flatMap_eyes as
      fun p hp => hevenNew p (List.mem_append_left cs hp)]
  rw [List.flatMap_append, List.append_assoc]

theorem step_inv (w : WireFormat V T G P) (s : State V T G) (e : Event V T) (s' : State V T G)
    (h : Inv s) (hkept : PairKept s e s') (hs : step w s e = some s') : Inv s' := by
  cases e with
  | push p =>
    cases hs
    rcases h.bridge with ⟨ps, hps, hframes⟩
    refine ⟨h.head, h.idle, ?_, h.pairs⟩
    simp only [VideoBridge.pushFrames_frames]
    split
    · exact ⟨ps, hps, hframes⟩
    · rcases queueAfterPush_pairs hframes p with ⟨ps', hsuffix, hafter⟩
      refine ⟨ps', ?_, hafter⟩
      intro p' hp'
      rcases List.mem_append.mp (hsuffix.subset hp') with hold | hnew
      · exact hps p' hold
      · rw [List.mem_singleton.mp hnew]
        exact hkept
  | setClient hz h265 h264 =>
    cases hs
    exact ⟨h.head, h.idle, h.bridge, h.pairs⟩
  | clearClient =>
    cases hs
    refine ⟨h.head, h.idle, ?_, h.pairs⟩
    simp only [VideoBridge.clearClient]
    split
    · exact h.bridge
    · exact ⟨[], by simp, rfl⟩
  | settings enabled window period slot fec stream =>
    cases hs
    exact ⟨h.head, h.idle, h.bridge, h.pairs⟩
  | pump env =>
    cases hs
    exact pump_inv w env h hkept

/-! ## Whole pairs -/

/-- What was begun in a drained state is whole pairs. -/
theorem Inv.pairsWhole {s : State V T G} (h : Inv s) (hdrained : Drained s) : PairsWhole s := by
  rcases h.pairs with ⟨bs, qs, half, -, hhalf, hqueue, hbegun⟩
  have hnone : half = [] := by
    rw [hdrained.2.1, List.append_nil] at hqueue
    cases qs with
    | nil => exact hqueue.symm
    | cons q qs =>
      rw [← hqueue] at hhalf
      simp [EyePair.eyes] at hhalf
  have hpairs : s.begun = bs.flatMap EyePair.eyes := by
    simp [hbegun, hnone, hdrained.2.1]
  intro id
  rw [hpairs]
  constructor
  · rintro ⟨f, hf, hid, hstream⟩
    rcases List.mem_flatMap.mp hf with ⟨p, hp, hmem⟩
    rcases List.mem_pair.mp hmem with rfl | rfl
    · exact ⟨p.right, List.mem_flatMap.mpr ⟨p, hp, by simp [EyePair.eyes]⟩,
        p.sameFrame.trans hid, p.rightStream⟩
    · rw [p.rightStream] at hstream
      cases hstream
  · rintro ⟨f, hf, hid, hstream⟩
    rcases List.mem_flatMap.mp hf with ⟨p, hp, hmem⟩
    rcases List.mem_pair.mp hmem with rfl | rfl
    · rw [p.leftStream] at hstream
      cases hstream
    · exact ⟨p.left, List.mem_flatMap.mpr ⟨p, hp, by simp [EyePair.eyes]⟩,
        p.sameFrame.symm.trans hid, p.leftStream⟩

/-- From a session that has begun nothing: in every run that keeps its pairs, each
frame's two eyes are begun or neither is, wherever everything has drained. -/
theorem pairs_whole_of_kept (w : WireFormat V T G P) {b : VideoBridge} {v : Video V T G}
    (hb : b.frames = []) (hq : v.queue = []) (hidle : v.sender.active = false)
    (es : List (Event V T)) {s : State V T G}
    (hkept : Runs.Along (step w) PairKept { bridge := b, video := v } es)
    (hrun : Runs.run (step w) { bridge := b, video := v } es = some s) (hdrained : Drained s) :
    PairsWhole s := by
  have hinv := Runs.run_invariant_along (step_inv w) es _ s (init_inv hb hq hidle) hkept hrun
  exact hinv.pairsWhole hdrained

open Pacing

/-- A pair whose left eye has the bytes `d` and whose right eye has one. -/
def pairOf (id : ℕ) (d : List UInt8) : EyePair :=
  { left := { frameId := id, streamIndex := 0, data := d },
    right := { frameId := id, streamIndex := 1, data := [0] },
    sameFrame := rfl, leftStream := rfl, rightStream := rfl }

/-- A pump at `now`, with sinks that take everything. -/
def pumpAt (now : ℕ) : PumpEnv Unit Unit :=
  { now := now, viewInfo := fun _ => (), timingInfo := fun _ => () }

/-- One pair, pushed and pumped while the pacing is off. -/
def onePair : List (Event Unit Unit) :=
  [.setClient (.val 90) true true, .settings false (2 / 5) 11111111 {} false true,
    .push (pairOf 1 [7]), .pump (pumpAt 5)]

theorem pairs_whole_one_pair :
    ∃ s, Runs.run (step burstWire) { video := idleSession } onePair = some s ∧ Drained s ∧
      PairsWhole s := by
  have hkept : Runs.Along (step burstWire) PairKept { video := idleSession } onePair := by
    refine ⟨trivial, trivial, ?_, ?_, trivial⟩
    · simp [PairKept, EyePair.Even, pairOf]
    · intro hact
      simp [idleSession, idleSender, PacedSender.abort] at hact
  exact ⟨_, rfl, ⟨rfl, rfl, rfl⟩,
    pairs_whole_of_kept burstWire rfl rfl rfl onePair hkept rfl ⟨rfl, rfl, rfl⟩⟩

/-! ## A trim that takes the other eye -/

/-- Two pairs, a pump, two more pairs and another pump. -/
def twoPumps (d : List UInt8) : List (Event Unit Unit) :=
  [.setClient (.val 90) true true, .push (pairOf 1 d), .push (pairOf 2 [0]),
    .pump (pumpAt 1000000000), .push (pairOf 3 [0]), .push (pairOf 4 [0]),
    .pump (pumpAt 1002000000)]

/-- What the first pump meets. -/
def firstQueue (d : List UInt8) : List EncodedFrame := (pairOf 1 d).eyes ++ (pairOf 2 [0]).eyes

/-- What the second pump meets: the trim has taken the right eye of the pair whose
left eye is under way, and the whole pair behind it. -/
def secondQueue (d : List UInt8) : List EncodedFrame :=
  (pairOf 1 d).left :: ((pairOf 3 [0]).eyes ++ (pairOf 4 [0]).eyes)

/-- The bridge before the first pump, and before the second one. -/
def firstBridge (d : List UInt8) : VideoBridge :=
  ((({} : VideoBridge).setClient (.val 90) true true).pushFrames (pairOf 1 d).eyes).pushFrames
    (pairOf 2 [0]).eyes

def secondBridge (d : List UInt8) : VideoBridge :=
  ((firstBridge d).takeFrames.1.pushFrames (pairOf 3 [0]).eyes).pushFrames (pairOf 4 [0]).eyes

theorem secondBridge_frames (d : List UInt8) :
    (secondBridge d).frames = (pairOf 3 [0]).eyes ++ (pairOf 4 [0]).eyes := rfl

/-- The run, as two pumps. -/
theorem run_twoPumps (d : List UInt8) :
    let first := pumpVideo (P := Unit) burstWire (pumpAt 1000000000) idleSession (firstBridge d)
    let second := pumpVideo (P := Unit) burstWire (pumpAt 1002000000) first.1 (secondBridge d)
    Runs.run (step burstWire) { video := idleSession } (twoPumps d) =
      some { bridge := second.2.1, video := second.1,
             begun := begunFrames first.2.2 ++ begunFrames second.2.2 } := by
  have hbridge : (pumpVideo (P := Unit) burstWire (pumpAt 1000000000) idleSession
      (firstBridge d)).2.1 = (firstBridge d).takeFrames.1 := rfl
  simp only [twoPumps, Runs.run_cons, step, Option.bind_some, Runs.run_nil, List.nil_append]
  rw [← firstBridge, hbridge, ← secondBridge]

/-- The session when the loop of the first pump starts. -/
def started (d : List UInt8) : Video Unit Unit Unit :=
  { idleSession.enqueue (firstQueue d) with nextVideoDue := 0 }

theorem started_sender (d : List UInt8) : (started d).sender = idleSender := rfl

/-- The first pump stops in the middle of the left eye. -/
theorem first_pump {d : List UInt8} (hd : d.length = 12289) :
    let r := pumpVideo (P := Unit) burstWire (pumpAt 1000000000) idleSession (firstBridge d)
    r.1.queue = firstQueue d ∧ r.1.sender.active = true ∧
      r.1.sender.data.length = r.1.sender.offset + 1 ∧
      begunFrames r.2.2 = [(pairOf 1 d).left] := by
  have hdata : (pairOf 1 d).left.data ≠ [] := by
    intro hnil
    simp [pairOf] at hnil
    simp [hnil] at hd
  have hslot : (started d).pacingSlot.beginFrame (1000000000 : ℕ) (started d).framePeriodNs
      (started d).pacingWindow 3 = ({ slotStart := 1000000000, slotOpen := true }, 1111111) := by
    have hidleSlot : idleSession.pacingSlot.beginFrame (1000000000 : ℕ) idleSession.framePeriodNs
        idleSession.pacingWindow 3 = ({ slotStart := 1000000000, slotOpen := true }, 1111111) := by
      decide +kernel
    exact hidleSlot
  have hpacer : (beginVideoFrame burstWire (started d) (pumpAt 1000000000) (pairOf 1 d).left
      3).sender.pacer = ShardPacer.make (1000000000 : ℕ) 1111111 12289 := by
    have hpaced : (started d).pacingEnabled = true ∧ ¬ (pairOf 1 d).left.idr = true :=
      ⟨rfl, by simp [pairOf]⟩
    have hnow : (pumpAt 1000000000).now = 1000000000 := rfl
    have hlength : (pairOf 1 d).left.data.length = 12289 := hd
    simp only [beginVideoFrame, PacedSender.begin, if_pos hpaced, hnow, hslot, hlength]
  have hwait : (ShardPacer.make (1000000000 : ℕ) 1111111 12289).waitUntil 12288
      (1000000000 : ℕ) =
      ({ ShardPacer.make (1000000000 : ℕ) 1111111 12289 with nextGroup := 24576 },
        some 1001111020) := by
    decide
  rcases burst_pauses (pumpAt 1000000000) (fun _ _ => rfl) (started d) rfl rfl hd 3
    (by rw [hpacer]; exact hwait) with ⟨hpause, hoffset, hbytes⟩
  rcases pumpQueue_pauses burstWire (pumpAt 1000000000)
    ([(pairOf 1 d).right] ++ (pairOf 2 [0]).eyes) rfl hdata (by decide) hpause with ⟨hleft, -, hactive, hsender⟩
  have hcons : (pairOf 1 d).left :: ([(pairOf 1 d).right] ++ (pairOf 2 [0]).eyes) =
      firstQueue d := rfl
  rw [hcons] at hleft hactive hsender
  have hpump : (pumpVideo (P := Unit) burstWire (pumpAt 1000000000) idleSession
        (firstBridge d)).1 =
        (pumpQueue burstWire (pumpAt 1000000000) (firstQueue d) (started d)).1 ∧
      (pumpVideo (P := Unit) burstWire (pumpAt 1000000000) idleSession
        (firstBridge d)).2.1.frames = [] ∧
      begunFrames (pumpVideo burstWire (pumpAt 1000000000) idleSession (firstBridge d)).2.2 =
        begunFrames (pumpQueue burstWire (pumpAt 1000000000) (firstQueue d) (started d)).2 :=
    pumpVideo_eq burstWire (pumpAt 1000000000) idleSession (firstBridge d) rfl
  rcases hpump with ⟨hvideo, -, hlog⟩
  simp only [hvideo, hlog]
  refine ⟨hleft, hactive, ?_, ?_⟩
  · rw [hsender]
    exact hbytes.trans (congrArg (· + 1) hoffset.symm)
  · rcases (pumpQueue_spec burstWire (pumpAt 1000000000) (firstQueue d) (started d)
      (fun hact => absurd hact (by simp [started_sender, idleSender, PacedSender.abort]))).begun with ⟨done, hdone, hbegun⟩
    have hdoneNil : done = [] := by
      rw [hleft] at hdone
      exact List.self_eq_append_left.mp hdone
    rw [hbegun, hdoneNil, hleft, protectedEntries_active hactive]
    simp [firstQueue, EyePair.eyes, hdata, protectedEntries, started_sender, idleSender,
      PacedSender.abort]

/-- The second pump finishes the left eye and sends the two newest pairs. -/
theorem second_pump {v : Video Unit Unit Unit} {b : VideoBridge} {d : List UInt8}
    (hinv : Video.Inv v) (hactive : v.sender.active = true) (hqueue : v.queue = firstQueue d)
    (hframes : b.frames = (pairOf 3 [0]).eyes ++ (pairOf 4 [0]).eyes)
    (hlast : v.sender.data.length = v.sender.offset + 1) :
    let r := pumpVideo (P := Unit) burstWire (pumpAt 1002000000) v b
    r.1.sender.active = false ∧ r.1.queue = [] ∧ r.2.1.frames = [] ∧
      begunFrames r.2.2 = (pairOf 3 [0]).eyes ++ (pairOf 4 [0]).eyes := by
  set env := pumpAt 1002000000
  have htaken : b.frames ≠ [] := by
    rw [hframes]
    exact List.cons_ne_nil _ _
  have htrim : (v.enqueue b.frames).queue = secondQueue d := by
    rw [enqueue_queue v htaken, hqueue, hframes, protectedEntries_active hactive]
    rfl
  -- The left eye is still the frame under way, with one byte to go
  set v' : Video Unit Unit Unit := { v.enqueue b.frames with nextVideoDue := 0 } with hv'
  have hsender : v'.sender = v.sender := enqueue_sender v b.frames
  rcases hinv hactive with ⟨f, rest, hcons, hloaded⟩
  have hhead : f = (pairOf 1 d).left := by
    rw [hqueue] at hcons
    exact (List.cons.inj hcons).1.symm
  rw [hhead, ← hsender] at hloaded
  rw [← hsender] at hactive hlast
  rcases hloaded.at' with ⟨k, hat⟩
  have hstart : startHead (P := Unit) burstWire env v' (pairOf 1 d).left
      ((pairOf 3 [0]).eyes ++ (pairOf 4 [0]).eyes).length = (v', []) := by
    simp [startHead, hactive]
  have hskip : ¬ (v'.sender.active = false ∧ (pairOf 1 d).left.data = []) := by
    simp [hactive]
  have htake := burst_takeBytes v'.sender
  have hpopped := pumpHead_ends burstWire env v' (pairOf 1 d).left
    (PacedSender.pump_ends burstWire (env.sinks (pairOf 1 d).left) env.now hat rfl
      (by omega))
  have hidle : (pumpQueue burstWire env (secondQueue d) v').1.sender.active = false := by
    rw [secondQueue, pumpQueue_popped burstWire env hskip (by rw [hstart]; exact hpopped), hstart]
    refine pumpQueue_drains burstWire env (fun _ _ => rfl) _ _
      ((pumpHead_spec burstWire env v' hloaded).popped hpopped) ?_
    intro f hf v'' behind
    have hsmall := burst_takeBytes (beginVideoFrame burstWire v'' env f behind).sender
    have hone : f.data.length = 1 := by
      simp only [EyePair.eyes, pairOf, List.mem_append, List.mem_pair] at hf
      rcases hf with (rfl | rfl) | (rfl | rfl) <;> rfl
    have hbytes : (beginVideoFrame burstWire v'' env f behind).sender.data.length = 1 := hone
    have hzero : (beginVideoFrame burstWire v'' env f behind).sender.offset = 0 := rfl
    omega
  have hspec := pumpQueue_spec burstWire env (secondQueue d) v'
    (fun _ => ⟨(pairOf 1 d).left, _, rfl, hloaded⟩)
  have hempty := hspec.drained hidle
  rcases hspec.begun with ⟨done, hdone, hbegun⟩
  rw [hempty, List.append_nil] at hdone
  rcases pumpVideo_eq (P := Unit) burstWire env v b htrim with ⟨hvideo, hframes', hlog⟩
  rw [← hv'] at hvideo hlog
  rw [← hvideo] at hidle hempty
  refine ⟨hidle, hempty, hframes', ?_⟩
  rw [hlog, hbegun, ← hdone, ← hvideo, hempty, protectedEntries_active hactive]
  simp [secondQueue, EyePair.eyes, pairOf]

/-- The run in which four pairs are pushed and the left eye of the first has one
byte more than a burst: it is begun, its right eye never is. -/
theorem right_eye_trimmed :
    ∃ s, Runs.run (step burstWire) { video := idleSession }
        (twoPumps (List.replicate 12289 0)) = some s ∧ Drained s ∧ ¬ PairsWhole s := by
  have hd : (List.replicate 12289 (0 : UInt8)).length = 12289 := List.length_replicate
  generalize List.replicate 12289 (0 : UInt8) = d at hd
  have hrun := run_twoPumps d
  have hpump := first_pump hd
  have hinv := (pumpVideo_inv (P := Unit) burstWire (pumpAt 1000000000) (v := idleSession)
    (fun hact => absurd hact (by decide)) (firstBridge d)).1
  generalize pumpVideo (P := Unit) burstWire (pumpAt 1000000000) idleSession (firstBridge d) =
    first at hrun hpump hinv
  rcases hpump with ⟨hqueue, hactive, hlast, hbegun⟩
  rcases second_pump hinv hactive hqueue (secondBridge_frames d) hlast with
    ⟨hidle, hempty, hframes, hbegun₂⟩
  refine ⟨_, hrun, ⟨hframes, hempty, hidle⟩, ?_⟩
  simp only [hbegun, hbegun₂]
  intro hwhole
  rcases (hwhole 1).mp ⟨(pairOf 1 d).left, List.mem_append_left _ (List.mem_singleton_self _),
    rfl, rfl⟩ with ⟨f, hf, hid, hstream⟩
  simp only [EyePair.eyes, pairOf, List.cons_append, List.nil_append, List.mem_cons,
    List.not_mem_nil, or_false] at hf
  rcases hf with rfl | rfl | rfl | rfl | rfl <;> simp at hid hstream

end Pairs

end WivrnNx
