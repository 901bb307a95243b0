import WivrnNx.Lib.Runs
import WivrnNx.Session.VideoPump

/-!
# When a paced burst goes out

One turn of `Session::run`: the poll timeout is shortened to the next due time,
the poll ends at the timeout or with the first socket event, the packet handlers
run, and `pump_video` is called. Nothing between the poll and the sender looks at
the due time again, so what keeps a burst from being early is the poll alone.

- `pollTimeout_covers`: a poll that runs to its timeout covers a due time at most
  20 ms away, thanks to the rounding;
- `turn_inv`: between two turns a frame is under way exactly when a due time in
  the future of its pump is stored;
- `never_early_iff`: over every run of turns, the bursts of a frame under way are
  never early exactly when no socket event, and no due time further than the
  20 ms cap, ends a poll before the burst is due.
-/

namespace WivrnNx.Pacing

open Video

variable {V T G P : Type*}

/-- One turn of the loop. Times are monotonic nanoseconds. -/
structure Turn (V T : Type*) where
  /-- The clock when the poll timeout is computed. -/
  start : ℕ
  /-- How long after that a socket becomes readable, if one does. -/
  event : Option ℕ
  /-- From the end of the poll to the clock read of `pump_video`. -/
  latency : ℕ
  /-- What the encoder thread has pushed meanwhile. -/
  pushed : List EncodedFrame := []
  /-- What the packet handlers leave of the transport settings. -/
  pacingEnabled : Bool := true
  pacingWindow : ℚ := 2 / 5
  framePeriodNs : ℤ := 11111111
  fecEnabled : Bool := false
  pacingSlot : PacingSlot := {}
  idr : IdrTracker := {}
  /-- What `pump_video` meets, but for its clock. -/
  env : PumpEnv V T

/-- The timeout handed to `poll`, in milliseconds: 20, or as long as the next
burst is away, rounded up. -/
def pollTimeoutMs (v : Video V T G) (now : ℕ) : ℤ :=
  if v.nextVideoDue ≠ 0 then
    let waitNs := v.nextVideoDue - now
    let waitMs := if waitNs ≤ 0 then 0 else (waitNs + 999999) / 1000000
    max 0 (min waitMs 20)
  else 20

/-- How long the poll takes: to the first event, or to its timeout. -/
def pollNs (v : Video V T G) (t : Turn V T) : ℤ :=
  match t.event with
  | none => pollTimeoutMs v t.start * 1000000
  | some e => min (e : ℤ) (pollTimeoutMs v t.start * 1000000)

/-- The clock that `pump_video` reads. -/
def pumpTime (v : Video V T G) (t : Turn V T) : ℕ :=
  (t.start + pollNs v t + t.latency).toNat

/-- The handlers' changes to the session. -/
def handled (v : Video V T G) (t : Turn V T) : Video V T G :=
  { v with pacingEnabled := t.pacingEnabled, pacingWindow := t.pacingWindow,
           framePeriodNs := t.framePeriodNs, fecEnabled := t.fecEnabled,
           pacingSlot := t.pacingSlot, idr := t.idr }

/-- What the turn's pump finds, and what it does. -/
def pumped (w : WireFormat V T G P) (v : Video V T G) (t : Turn V T) :
    Video V T G × VideoBridge × List (VideoEvent V T P) :=
  pumpVideo w { t.env with now := pumpTime v t } (handled v t) { frames := t.pushed }

/-- One turn. -/
def step (w : WireFormat V T G P) (v : Video V T G) (t : Turn V T) : Option (Video V T G) :=
  some (pumped w v t).1

/-- A turn never fails. -/
theorem step_eq (w : WireFormat V T G P) (v : Video V T G) (t : Turn V T) :
    step w v t = some (pumped w v t).1 := rfl

/-- What a turn leaves is what the loop over the trimmed queue leaves. -/
theorem pumped_video (w : WireFormat V T G P) (v : Video V T G) (t : Turn V T) :
    (pumped w v t).1 = (pumpQueue w { t.env with now := pumpTime v t }
      ((handled v t).enqueue t.pushed).queue
      { (handled v t).enqueue t.pushed with nextVideoDue := 0 }).1 := rfl

/-! ## Early bursts -/

/-- Some data shard of the frame that was under way went to a sink: one sent
before any other frame was begun. -/
def Resumed (log : List (VideoEvent V T P)) : Prop :=
  ∃ f shard control, VideoEvent.sent f (.data shard control) ∈
    log.takeWhile fun e => (begunFrames [e]).isEmpty

/-- No shard of the frame under way goes to a sink before the due time that the
last pump stored for it. -/
def NeverEarly (w : WireFormat V T G P) (v : Video V T G) (t : Turn V T) (_ : Video V T G) :
    Prop :=
  v.sender.active = true → Resumed (pumped w v t).2.2 → v.nextVideoDue ≤ pumpTime v t

/-- While a frame is under way, no event ends the poll (and the turn reaches
`pump_video`) before the frame's next burst is due, and that is not further away
than the 20 ms cap on the poll. -/
def NotWoken (v : Video V T G) (t : Turn V T) (_ : Video V T G) : Prop :=
  v.sender.active = true →
    (∀ e ∈ t.event, v.nextVideoDue ≤ t.start + e + t.latency) ∧
      v.nextVideoDue ≤ t.start + 20000000 + t.latency

/-! ## The poll -/

/-- The timeout is never negative and never above 20 ms. -/
theorem pollTimeoutMs_range (v : Video V T G) (now : ℕ) :
    0 ≤ pollTimeoutMs v now ∧ pollTimeoutMs v now ≤ 20 := by
  unfold pollTimeoutMs
  split
  · simp only
    omega
  · omega

/-- Rounding up: a poll that runs to its timeout covers a due time within the cap. -/
theorem pollTimeout_covers (v : Video V T G) (now : ℕ) (h : v.nextVideoDue ≠ 0) :
    v.nextVideoDue ≤ now + pollTimeoutMs v now * 1000000 ∨ pollTimeoutMs v now = 20 := by
  rw [pollTimeoutMs, if_pos h]
  simp only
  split <;> omega

/-- The pump comes no earlier than the due time exactly when neither an event nor
the cap ends the poll too soon. -/
theorem pumpTime_ge_iff {v : Video V T G} (h : v.nextVideoDue ≠ 0) (t : Turn V T) :
    v.nextVideoDue ≤ pumpTime v t ↔
      (∀ e ∈ t.event, v.nextVideoDue ≤ t.start + e + t.latency) ∧
        v.nextVideoDue ≤ t.start + 20000000 + t.latency := by
  have hrange := pollTimeoutMs_range v t.start
  have hcovers := pollTimeout_covers v t.start h
  have hpos : 0 ≤ pollNs v t := by
    unfold pollNs
    cases t.event with
    | none => simp only; omega
    | some e => simp only; omega
  have htime : (pumpTime v t : ℤ) = t.start + pollNs v t + t.latency := by
    rw [pumpTime, Int.toNat_of_nonneg (by omega)]
  rw [htime]
  cases hev : t.event with
  | none =>
    simp only [pollNs, hev, Option.mem_def, reduceCtorEq, false_imp_iff, implies_true, true_and]
    omega
  | some e =>
    simp only [pollNs, hev, Option.mem_def, Option.some.injEq, forall_eq']
    omega

/-! ## Runs of turns -/

/-- Between two turns: the frame under way is the head of the queue, and its next
due time is stored. -/
def TurnInv (v : Video V T G) : Prop :=
  Video.Inv v ∧ (v.sender.active = true → 0 < v.nextVideoDue)

theorem turn_inv (w : WireFormat V T G P) (v : Video V T G) (t : Turn V T) (v' : Video V T G)
    (h : TurnInv v) (hs : step w v t = some v') : TurnInv v' := by
  simp only [step, Option.some.injEq] at hs
  subst hs
  obtain ⟨hinv, hdue⟩ := pumpVideo_inv w { t.env with now := pumpTime v t }
    (v := handled v t) h.1 { frames := t.pushed }
  refine ⟨hinv, fun hact => ?_⟩
  have hmin : (0 : ℤ) < ShardPacer.minSleepNs := by decide
  have hnow := Int.natCast_nonneg (pumpTime v t)
  have hlater : (pumpTime v t : ℤ) + ShardPacer.minSleepNs ≤ (pumped w v t).1.nextVideoDue :=
    hdue hact
  omega

/-- A turn that finds a frame under way hands over some of it, whatever the time. -/
theorem resumed_of_active (w : WireFormat V T G P) {v : Video V T G} (h : TurnInv v)
    (hact : v.sender.active = true) (t : Turn V T) : Resumed (pumped w v t).2.2 := by
  obtain ⟨f, shard, control, before, after, hlog, hbefore⟩ :=
    pumpVideo_resumes w { t.env with now := pumpTime v t } (v := handled v t) h.1 hact
      { frames := t.pushed }
  refine ⟨f, shard, control, ?_⟩
  have hall : ∀ e ∈ before ++ [VideoEvent.sent f (SinkCall.data shard control)],
      (begunFrames [e]).isEmpty = true := by
    intro e he
    rcases List.mem_append.mp he with he | he
    · exact (begunFrames_eq_nil_iff before).mp hbefore e he
    · rw [List.mem_singleton.mp he]
      rfl
  unfold pumped
  rw [hlog, ← List.singleton_append, ← List.append_assoc, List.takeWhile_append_of_pos hall]
  simp

/-- Over every run of the session loop, from a session whose sender holds no
frame: no burst of a frame under way is early exactly when, in every turn that
finds a frame under way, no socket event brings the turn to `pump_video` before
the stored due time and that due time is not beyond the 20 ms cap on the poll. -/
theorem never_early_iff (w : WireFormat V T G P) (s : PacedSender V T G)
    (turns : List (Turn V T)) :
    Runs.Along (step w) (NeverEarly w) { sender := s.abort } turns ↔
      Runs.Along (step w) NotWoken { sender := s.abort } turns := by
  refine Runs.along_iff (turn_inv w) ?_ turns _ ⟨fun hact => ?_, fun hact => ?_⟩
  · intro v t v' h _
    unfold NeverEarly NotWoken
    constructor
    · intro hearly hact
      exact (pumpTime_ge_iff (ne_of_gt (h.2 hact)) t).mp
        (hearly hact (resumed_of_active w h hact t))
    · intro hquiet hact _
      exact (pumpTime_ge_iff (ne_of_gt (h.2 hact)) t).mpr (hquiet hact)
  · simp [PacedSender.abort] at hact
  · simp [PacedSender.abort] at hact

/-! ## A tracking packet that comes early -/

/-- A wire format with 12 KiB shards, the size of one micro-burst. -/
def burstWire : WireFormat Unit Unit Unit Unit where
  serializedSize _ := 0
  shardPayloadBudget _ := 12288
  groupReset _ _ := ()
  groupAdd g _ := g
  groupBlockFull _ := false
  groupTake g := (g, none)
  paritySize _ := 0

/-- The encoder hands over `f`, and the poll runs to its timeout. -/
def firstTurn (f : EncodedFrame) : Turn Unit Unit :=
  { start := 1000000000, event := none, latency := 0, pushed := [f],
    env := { now := 0, viewInfo := fun _ => (), timingInfo := fun _ => () } }

/-- A packet arrives 1 µs into the next poll. -/
def secondTurn : Turn Unit Unit :=
  { start := 1020000000, event := some 1000, latency := 0,
    env := { now := 0, viewInfo := fun _ => (), timingInfo := fun _ => () } }

/-- A sender that has sent nothing. -/
def idleSender : PacedSender Unit Unit Unit :=
  PacedSender.abort
    { frame := { streamIndex := 0, frameIndex := 0, viewInfo := (), timingInfo := () },
      group := (), shard := { streamItemIdx := 0, frameIdx := 0 } }

/-- A session that has sent nothing. -/
def idleSession : Video Unit Unit Unit := { sender := idleSender }

/-- One shard takes 12 KiB, or what is left. -/
theorem burst_takeBytes (s : PacedSender Unit Unit Unit) :
    min 12288 (s.data.length - s.offset) ≤ PacedSender.takeBytes burstWire s := by
  have hbudget : 12288 ≤ payloadBudget burstWire s.frame := by
    unfold payloadBudget
    split
    · simp [sizeMax]
    · simp [burstWire]
  have hnone : burstWire.serializedSize s.shard.viewInfo = 0 := rfl
  simp only [PacedSender.takeBytes, hnone, Nat.sub_zero]
  split <;> omega

/-- The first burst of a frame one byte longer than a burst, begun as a P frame
with a budget its pacer spreads: the last byte is due later. -/
theorem burst_pauses (env : PumpEnv Unit Unit) (hthrows : ∀ f offset, env.throws f offset = false)
    (v : Video Unit Unit Unit) (hstream : v.hasStreamSocket = true) {f : EncodedFrame}
    (hidr : f.idr = false) (hlength : f.data.length = 12289) (behind : ℕ) {p : ShardPacer}
    {due : ℤ}
    (hwait : (beginVideoFrame burstWire v env f behind).sender.pacer.waitUntil 12288 env.now =
      (p, some due)) :
    let s := (beginVideoFrame burstWire v env f behind).sender
    let r := s.pump burstWire (env.sinks f) env.now
    r.outcome = .due due ∧ r.sender.offset = 12288 ∧ r.sender.data.length = 12289 := by
  have hne : f.data ≠ [] := by
    intro hnil
    simp [hnil] at hlength
  set s := (beginVideoFrame burstWire v env f behind).sender with hs
  have hat : s.At 0 := PacedSender.begin_at burstWire v.sender (v.describe env f) hne _
  have hdata : s.data.length = 12289 := hlength
  have hzero : s.offset = 0 := rfl
  have htake : PacedSender.takeBytes burstWire s = 12288 := by
    have hbudget : payloadBudget burstWire s.frame = 12288 := by
      simp [payloadBudget, hs, beginVideoFrame, PacedSender.begin, describe, hidr, hstream,
        burstWire]
    have hnone : burstWire.serializedSize s.shard.viewInfo = 0 := rfl
    simp [PacedSender.takeBytes, hbudget, hnone, hdata, hzero]
  have hno : (env.sinks f).throws s.offset = false := hthrows f _
  obtain ⟨hdue, hsender⟩ := PacedSender.pump_pauses (w := burstWire) hat hno (by omega)
    (by rw [htake, hzero]; exact hwait)
  obtain ⟨-, hdata', -, -, hoffset, -, -⟩ := PacedSender.advance_spec burstWire (env.sinks f) s
  simp only [hdue, hsender, hdata', hoffset, htake, hzero, hdata, and_self, Nat.zero_add]

/-- The first turn leaves a P frame of that length under way, its last byte due at
1024.4 ms. -/
theorem firstTurn_leaves_burst {f : EncodedFrame} (hidr : f.idr = false)
    (hlength : f.data.length = 12289) :
    (pumped burstWire idleSession (firstTurn f)).1.sender.active = true ∧
      (pumped burstWire idleSession (firstTurn f)).1.nextVideoDue = 1024444082 := by
  have hdata : f.data ≠ [] := by
    intro hnil
    simp [hnil] at hlength
  have htime : pumpTime idleSession (firstTurn f) = 1020000000 := by
    simp [pumpTime, pollNs, pollTimeoutMs, firstTurn, idleSession]
  set env : PumpEnv Unit Unit :=
    { (firstTurn f).env with now := pumpTime idleSession (firstTurn f) } with henv
  have hnow : env.now = 1020000000 := htime
  have hqueue : ((handled idleSession (firstTurn f)).enqueue [f]).queue = [f] := by
    rw [enqueue, if_neg (List.cons_ne_nil _ _)]
    exact DropGroups.trimAt_of_length_le _ _ (by simp [handled, idleSession, maxVideoQueued])
  set v₀ : Video Unit Unit Unit :=
    { (handled idleSession (firstTurn f)).enqueue [f] with nextVideoDue := 0 } with hv₀
  have hslot : v₀.pacingSlot.beginFrame (1020000000 : ℕ) v₀.framePeriodNs v₀.pacingWindow 0 =
      ({ slotStart := 1020000000, slotOpen := true }, 4444444) := by
    have hidleSlot : idleSession.pacingSlot.beginFrame (1020000000 : ℕ) idleSession.framePeriodNs
        idleSession.pacingWindow 0 = ({ slotStart := 1020000000, slotOpen := true }, 4444444) := by
      decide +kernel
    exact hidleSlot
  have hpacer : (beginVideoFrame burstWire v₀ env f 0).sender.pacer =
      ShardPacer.make (1020000000 : ℕ) 4444444 12289 := by
    have hpaced : v₀.pacingEnabled = true ∧ ¬ f.idr = true := ⟨rfl, by simp [hidr]⟩
    simp only [beginVideoFrame, PacedSender.begin, if_pos hpaced, hnow, hslot, hlength]
  have hwait : (ShardPacer.make (1020000000 : ℕ) 4444444 12289).waitUntil 12288
      (1020000000 : ℕ) =
      ({ ShardPacer.make (1020000000 : ℕ) 4444444 12289 with nextGroup := 24576 },
        some 1024444082) := by
    decide
  obtain ⟨hpause, hoffset, hbytes⟩ := burst_pauses env (fun _ _ => rfl) v₀ rfl hidr hlength 0
    (by rw [hpacer, hnow]; exact hwait)
  have hlater : (env.now : ℤ) < 1024444082 := by
    rw [hnow]
    decide
  obtain ⟨-, hdue, hactive, -⟩ := pumpQueue_pauses burstWire env [] rfl hdata hlater
    hpause
  have hpumped : (pumped burstWire idleSession (firstTurn f)).1 =
      (pumpQueue burstWire env [f] v₀).1 := by
    have hpushed : (firstTurn f).pushed = [f] := rfl
    rw [pumped_video, hpushed, hqueue]
  rw [hpumped]
  exact ⟨hactive, hdue⟩

/-- A P frame one byte longer than a burst, and a tracking packet that wakes the
loop 1 µs into the next turn: the last byte leaves 4.4 ms before it is due. -/
theorem burst_early_after_packet :
    ¬ Runs.Along (step burstWire) (NeverEarly burstWire) idleSession
      [firstTurn { frameId := 1, streamIndex := 0, data := List.replicate 12289 0 },
        secondTurn] := by
  intro h
  obtain ⟨hactive, hdue⟩ := firstTurn_leaves_burst
    (f := { frameId := 1, streamIndex := 0, data := List.replicate 12289 0 }) rfl
    List.length_replicate
  have hinv := turn_inv burstWire idleSession _ _
    ⟨fun hact => absurd hact (by decide), fun hact => absurd hact (by decide)⟩
    (step_eq burstWire idleSession (firstTurn
      { frameId := 1, streamIndex := 0, data := List.replicate 12289 0 }))
  obtain ⟨-, hrest⟩ := (Runs.along_cons_some rfl).mp h
  have hearly := ((Runs.along_cons_some rfl).mp hrest).1 hactive
    (resumed_of_active burstWire hinv hactive secondTurn)
  have hwoken := ((pumpTime_ge_iff (by rw [hdue]; decide) secondTurn).mp hearly).1 1000 rfl
  rw [hdue] at hwoken
  revert hwoken
  decide

end WivrnNx.Pacing
