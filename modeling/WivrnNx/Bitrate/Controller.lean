import WivrnNx.Packets
import WivrnNx.Bitrate.MaxFilter

/-!
# The adaptive bitrate controller

`BitrateController` (wivrn/bitrate_controller.h and .cpp): the two control laws over
one window of per-frame samples, and the radio trend in front of both. Every member
function holds the mutex throughout, so each is one step on the state; the caller
passes the clock. Times are nanoseconds since the clock's epoch, which is what a
default `time_point` is; doubles are rationals.

This module has the state, the resets and the way from feedback packets to samples;
`Bitrate.Control` has the decisions.
-/

namespace WivrnNx

/-- `wivrn::bitrate_mode`: the two control laws. -/
inductive BitrateMode where
  | aimd | bbr
deriving DecidableEq, Repr

namespace BitrateController

/-- `config`. -/
structure Config where
  enabled : Bool := true
  minBitrateBps : ℕ := 10000000
  control : BitrateMode := .aimd
deriving DecidableEq, Repr

/-- `uint64_t(-1)`: a slot of the frame ring that tracks no frame. -/
def noFrame : ℕ := 2 ^ 64 - 1

/-- `frame_state`: a frame whose feedback packets are being collected. -/
structure FrameState where
  index : ℕ := noFrame
  first : ℤ := 0
  last : ℤ := 0
  valid : Bool := false
  lost : Bool := false
  late : Bool := false
  bytes : ℕ := 0
deriving DecidableEq, Repr

/-- `sample`. -/
structure Sample where
  when' : ℤ
  utilisation : ℚ := 0
  lost : Bool := false
  late : Bool := false
  rate : ℚ := 0
deriving DecidableEq, Repr

/-- `radio_sample`. -/
structure RadioSample where
  when' : ℤ
  rssiDbm : ℚ
  linkSpeedMbps : ℤ
deriving DecidableEq, Repr

/-- `radio_trend`. -/
structure RadioTrend where
  usable : Bool := false
  rssiDbm : ℚ := 0
  slopeDbPerS : ℚ := 0
  spanS : ℚ := 0
  deltaDb : ℚ := 0
  linkSpeedMbps : ℤ := 0
  linkSpeedPeakMbps : ℤ := 0
deriving DecidableEq, Repr

/-- `state`, of the AIMD law. -/
inductive AimdState where
  | steady | recovering
deriving DecidableEq, Repr

/-- `bbr_state`. -/
inductive BbrState where
  | startup | steady | probe
deriving DecidableEq, Repr

/-- `stats`. -/
structure Stats where
  utilisation : ℚ := 0
  lost : ℕ := 0
  late : ℕ := 0
  count : ℕ := 0
  rate : ℚ := 0
  rateCount : ℕ := 0
deriving DecidableEq, Repr

/-! ## Constants -/

def ms (n : ℤ) : ℤ := n * 1000000

def windowDuration : ℤ := ms 2000
def minSamples : ℕ := 20
def evaluationInterval : ℤ := ms 250
def utilisationPercentile : ℚ := 9 / 10
def frameRingSize : ℕ := 16
def videoStreamCount : ℕ := 3
def utilisationDecrease : ℚ := 85 / 100
def utilisationIncrease : ℚ := 60 / 100
def utilisationSevere : ℚ := 1
def lostFramesDecrease : ℕ := 1
def lostFramesSevere : ℕ := 3
def lateFramesDecrease : ℕ := 4
def lateFramesSevere : ℕ := 10
def decreaseFactor : ℚ := 7 / 10
def deepDecreaseFactor : ℚ := 4 / 10
def decreaseCooldown : ℤ := ms 2000
def increaseStepMin : ℕ := 2000000
def increaseStepRatio : ℚ := 5 / 100
def increaseHold : ℤ := ms 5000
def recoveryConfirm : ℤ := ms 2500
def recoveryStepInterval : ℤ := ms 1000
def recoveryFactor : ℚ := 2
def recoveryTargetBackoff : ℚ := 75 / 100
def radioTrendWindow : ℤ := ms 4000
def radioMaxAge : ℤ := ms 5000
def radioMinSamples : ℕ := 4
def radioEmaAlpha : ℚ := 4 / 10
def radioFallDb : ℚ := 6
def radioLowRssiDbm : ℚ := -65
def radioLinkSpeedHeadroom : ℚ := 2
def radioLinkSpeedCollapse : ℚ := 1 / 2
def radioStepInterval : ℤ := ms 4000
def radioRiseDb : ℚ := 3
def radioStableSlope : ℚ := 75 / 100
def radioStableHold : ℤ := ms 3000
def estimatorWindow : ℤ := ms 10000
def appLimitedWireFraction : ℚ := 30 / 100
def unpacedWireFraction : ℚ := 10 / 100
def estimatorMinSamples : ℕ := 12
def gainStartup : ℚ := 125 / 100
def gainSteady : ℚ := 85 / 100
def gainProbe : ℚ := 110 / 100
def gainRadio : ℚ := 75 / 100
def backoffFactor : ℚ := 70 / 100
def roundDuration : ℤ := ms 500
def startupGrowth : ℚ := 125 / 100
def startupStallRounds : ℕ := 3
def probeInterval : ℤ := ms 8000
def probeDuration : ℤ := ms 500
def steadyInterval : ℤ := ms 1000
def steadyChangeThreshold : ℚ := 5 / 100
def changeSettle : ℤ := ms 250
def slowdownBackoff : ℚ := 160 / 100

/-- What a cast of a double to an unsigned integer keeps. -/
def trunc (x : ℚ) : ℕ := ⌊x⌋.toNat

end BitrateController

open BitrateController in
/-- `BitrateController`. -/
structure BitrateController where
  conf : Config := {}
  clientEnabled : Bool := true
  clientMode : Option BitrateMode := none
  radioAware : Bool := true
  ceiling : ℕ := 0
  bitrate : ℕ := 0
  minBitrate : ℕ := 0
  st : AimdState := .steady
  recoveryTarget : ℕ := 0
  firstRecoveryStep : Bool := true
  frames : Fin frameRingSize → FrameState := fun _ => {}
  newestFrame : ℕ := 0
  hasFrames : Bool := false
  /-- Frames older than this were sent at a bitrate that is no longer in force. -/
  staleBefore : ℕ := 0
  framePeriod : ℤ := 0
  pacingWindow : ℚ := 0
  bbrSt : BbrState := .startup
  bandwidth : MaxFilter := {}
  bandwidthSamples : ℕ := 0
  lastBandwidthSample : ℤ := 0
  startupMark : ℚ := 0
  startupStalled : ℕ := 0
  roundStarted : ℤ := 0
  lastProbe : ℤ := 0
  probeUntil : ℤ := 0
  lastBbrChange : ℤ := 0
  window : List Sample := []
  healthySince : Option ℤ := none
  lastEvaluation : ℤ := 0
  lastDecrease : ℤ := 0
  radioWindow : List RadioSample := []
  radioEma : Option ℚ := none
  lastRadioSample : ℤ := 0
  lastRadioStep : ℤ := 0
  radioHold : Bool := false
  radioStableSince : Option ℤ := none

namespace BitrateController

/-! ## Resets -/

/-- `mode_locked`: the headset's selector wins whenever it expressed one. -/
def mode (c : BitrateController) : BitrateMode := c.clientMode.getD c.conf.control

/-- Both switches: the headset's and the command line's. -/
def enabled (c : BitrateController) : Bool := c.conf.enabled && c.clientEnabled

/-- `std::clamp` to the floor and the ceiling. -/
def clamp (c : BitrateController) (value : ℕ) : ℕ :=
  if value < c.minBitrate then c.minBitrate else if c.ceiling < value then c.ceiling else value

/-- `flush`: the samples so far say nothing about the bitrate that is now in force,
nor do the frames in flight. -/
def flush (c : BitrateController) : BitrateController :=
  { c with
    window := []
    healthySince := none
    lastEvaluation := 0
    staleBefore := if c.hasFrames then (c.newestFrame + 1) % 2 ^ 64 else c.staleBefore }

/-- `flush_radio`. -/
def flushRadio (c : BitrateController) : BitrateController :=
  { c with
    radioWindow := [], radioEma := none, lastRadioSample := 0, lastRadioStep := 0,
    radioHold := false, radioStableSince := none }

/-- `flush_estimator`. -/
def flushEstimator (c : BitrateController) : BitrateController :=
  { c with
    bandwidth := {}, bandwidthSamples := 0, lastBandwidthSample := 0, bbrSt := .startup,
    startupMark := 0, startupStalled := 0, roundStarted := 0, lastProbe := 0, probeUntil := 0,
    lastBbrChange := 0 }

/-- The frame ring is emptied. -/
def forgetFrames (c : BitrateController) : BitrateController :=
  { c with frames := fun _ => {}, hasFrames := false, staleBefore := 0 }

/-- `configure`. -/
def configure (c : BitrateController) (conf : Config) (ceilingBps : ℕ)
    (clientEnabled radioAware : Bool) (clientMode : Option BitrateMode) : BitrateController :=
  { c with
    conf := conf, clientEnabled := clientEnabled, radioAware := radioAware,
    clientMode := clientMode, ceiling := ceilingBps
    -- A ceiling below the configured minimum wins
    minBitrate :=
      min conf.minBitrateBps (if ceilingBps ≠ 0 then ceilingBps else conf.minBitrateBps)
    bitrate := ceilingBps, recoveryTarget := ceilingBps, st := .steady,
    firstRecoveryStep := true }.forgetFrames.flush.flushRadio.flushEstimator

/-- `reset_locked`: back to the ceiling. -/
def reset (c : BitrateController) : BitrateController × Option ℕ :=
  if c.ceiling = 0 then (c, none)
  else
    let c :=
      { c with
        bitrate := c.ceiling, recoveryTarget := c.ceiling, st := .steady,
        firstRecoveryStep := true }.forgetFrames.flush.flushEstimator
    ({ c with radioHold := false, radioStableSince := none, lastRadioStep := 0 }, some c.bitrate)

/-- `set_client_mode`. -/
def setClientMode (c : BitrateController) (m : Option BitrateMode) :
    BitrateController × Option ℕ :=
  if m = c.clientMode then (c, none)
  else
    let c' := { c with clientMode := m }
    if c.mode = c'.mode then (c', none) else c'.reset

/-- `set_client_enabled`. -/
def setClientEnabled (c : BitrateController) (enabled : Bool) : BitrateController × Option ℕ :=
  if enabled = c.clientEnabled then (c, none)
  else reset { c with clientEnabled := enabled }

/-- `set_radio_aware`: never touches the bitrate. -/
def setRadioAware (c : BitrateController) (enabled : Bool) : BitrateController :=
  if enabled = c.radioAware then c else flushRadio { c with radioAware := enabled }

/-- `set_pacing_window`. -/
def setPacingWindow (c : BitrateController) (window : ℚ) : BitrateController :=
  { c with pacingWindow := max 0 (min window 1) }

/-- `set_ceiling`. -/
def setCeiling (c : BitrateController) (ceilingBps : ℕ) : BitrateController × Option ℕ :=
  if ceilingBps = 0 ∨ ceilingBps = c.ceiling then (c, none)
  else reset { c with ceiling := ceilingBps, minBitrate := min c.conf.minBitrateBps ceilingBps }

/-! ## Frames into samples -/

/-- `min_loaded_wire_ns`. -/
def minLoadedWireNs (c : BitrateController) : ℤ :=
  if c.framePeriod ≤ 0 then 0
  else
    let fraction :=
      if 0 < c.pacingWindow then appLimitedWireFraction * c.pacingWindow else unpacedWireFraction
    ⌊fraction * c.framePeriod⌋

/-- The delivery rate that a complete frame measured, or 0: only one that loaded the
link says anything about what the link can carry. -/
def deliveryRate (c : BitrateController) (f : FrameState) : ℚ :=
  let wireNs := f.last - f.first
  if c.mode = .bbr ∧ 0 < wireNs ∧ f.bytes ≠ 0 ∧ c.minLoadedWireNs ≤ wireNs
  then 8000000000 * f.bytes / wireNs else 0

/-- A delivery rate joins the estimate. -/
def addRate (c : BitrateController) (rate : ℚ) (now : ℤ) : BitrateController :=
  if rate = 0 then c
  else
    { c with
      bandwidth := c.bandwidth.update rate now estimatorWindow
      bandwidthSamples := c.bandwidthSamples + 1
      lastBandwidthSample := now }

/-- The frame in a slot of the ring is replaced. -/
def setFrame (c : BitrateController) (i : Fin frameRingSize) (f : FrameState) :
    BitrateController :=
  { c with frames := Function.update c.frames i f }

/-- `close_frame`, of the frame in one slot of the ring: at most one sample, then the
slot is free. -/
def closeFrame (c : BitrateController) (i : Fin frameRingSize) (now : ℤ) : BitrateController :=
  let f := c.frames i
  if f.index = noFrame then c
  else
    let fresh : Bool := c.staleBefore ≤ f.index
    let c :=
      if f.lost then
        let sample : Sample := { when' := now, lost := true, late := f.late }
        if fresh then { c with window := c.window ++ [sample] } else c
      else if f.valid ∧ f.first ≠ 0 ∧ f.first ≤ f.last ∧ 0 < c.framePeriod then
        let rate := c.deliveryRate f
        let sample : Sample :=
          { when' := now, utilisation := ((f.last - f.first : ℤ) : ℚ) / c.framePeriod,
            late := f.late, rate := rate }
        let c := c.addRate rate now
        if fresh then { c with window := c.window ++ [sample] } else c
      else c
    c.setFrame i {}

/-- The slot of a frame index. -/
def slot (frameIndex : ℕ) : Fin frameRingSize :=
  ⟨frameIndex % frameRingSize, Nat.mod_lt _ (by decide)⟩

/-- A frame index newer than any so far, or the first. -/
def isNewest (c : BitrateController) (frameIndex : ℕ) : Bool :=
  !c.hasFrames || decide (c.newestFrame < frameIndex)

/-- The newest frame index is remembered. -/
def noteNewest (c : BitrateController) (frameIndex : ℕ) : BitrateController :=
  if c.isNewest frameIndex then { c with newestFrame := frameIndex, hasFrames := true } else c

/-- The frame's slot of the ring becomes its own: the frame that had it is closed. -/
def claimSlot (c : BitrateController) (frameIndex : ℕ) (now : ℤ) : BitrateController :=
  if (c.frames (slot frameIndex)).index = frameIndex then c
  else
    let c := c.closeFrame (slot frameIndex) now
    let f := c.frames (slot frameIndex)
    c.setFrame (slot frameIndex) { f with index := frameIndex }

/-- What both `on_frame_bytes` and `on_feedback` start with: nothing for a frame that
has already been turned into a sample. -/
def trackFrame (c : BitrateController) (frameIndex : ℕ) (now : ℤ) : Option BitrateController :=
  if ¬ c.isNewest frameIndex ∧ (frameIndex + frameRingSize) % 2 ^ 64 ≤ c.newestFrame then none
  else some ((c.noteNewest frameIndex).claimSlot frameIndex now)

/-- `on_frame_bytes`. -/
def onFrameBytes (c : BitrateController) (frameIndex streamIndex bytes : ℕ) (now : ℤ) :
    BitrateController :=
  if c.mode ≠ .bbr ∨ ¬ c.enabled ∨ c.ceiling = 0 then c
  else if videoStreamCount ≤ streamIndex ∨ bytes = 0 then c
  else
    match c.trackFrame frameIndex now with
    | none => c
    | some c =>
      let f := c.frames (slot frameIndex)
      c.setFrame (slot frameIndex) { f with bytes := (f.bytes + bytes) % 2 ^ 64 }

/-- What a feedback packet says about its frame. -/
def joinFeedback (feedback : Feedback) (f : FrameState) : FrameState :=
  let f :=
    if feedback.sentToDecoder = 0 then { f with lost := true }
    else
      { f with
        first :=
          if feedback.receivedFirstPacket = 0 then f.first
          else if f.first = 0 then feedback.receivedFirstPacket
          else min f.first feedback.receivedFirstPacket
        last :=
          if feedback.receivedLastPacket = 0 then f.last
          else max f.last feedback.receivedLastPacket
        valid := true }
  -- Decoded, then evicted by a newer frame without ever being shown
  if feedback.receivedFromDecoder ≠ 0 ∧ feedback.blitted = 0 ∧ feedback.timesDisplayed = 0
  then { f with late := true } else f

/-! ## The window, analysed -/

/-- The high percentile that `nth_element` finds, 0 of nothing. -/
def percentile (xs : List ℚ) : ℚ :=
  (xs.mergeSort (fun a b => decide (a ≤ b))).getD
    (min (xs.length - 1) (trunc (utilisationPercentile * xs.length))) 0

/-- The window without what is too old. -/
def pruneWindow (c : BitrateController) (now : ℤ) : BitrateController :=
  { c with window := c.window.dropWhile fun s => windowDuration < now - s.when' }

/-- `analyse`, behind the pruning. -/
def stats (c : BitrateController) : Stats :=
  let lost := (c.window.filter (·.lost)).length
  let utilisation := percentile ((c.window.filter fun s => !s.lost).map (·.utilisation))
  let rates := (c.window.map (·.rate)).filter fun r => 0 < r
  { count := c.window.length
    lost := lost
    late := (c.window.filter (·.late)).length
    -- A frame that never arrived is at least as bad as a fully saturated one
    utilisation := if lost ≠ 0 then max utilisation utilisationSevere else utilisation
    rateCount := rates.length
    rate := percentile rates }

/-- Seconds. -/
def seconds (d : ℤ) : ℚ := d / 1000000000

/-- `analyse_radio`, behind the pruning: the least squares slope of the smoothed
level. -/
def radioTrend (c : BitrateController) : RadioTrend :=
  match c.radioWindow.head?, c.radioWindow.getLast? with
  | some oldest, some newest =>
    let span := seconds (newest.when' - oldest.when')
    let n : ℚ := c.radioWindow.length
    let t (s : RadioSample) : ℚ := seconds (s.when' - oldest.when')
    let meanT := (c.radioWindow.map t).sum / n
    let meanY := (c.radioWindow.map (·.rssiDbm)).sum / n
    let cov := (c.radioWindow.map fun s => (t s - meanT) * (s.rssiDbm - meanY)).sum
    let var := (c.radioWindow.map fun s => (t s - meanT) * (t s - meanT)).sum
    if c.radioWindow.length < radioMinSamples then {}
    else if span ≤ 0 ∨ var ≤ 0 then { spanS := span }
    else
      { usable := true, rssiDbm := newest.rssiDbm, slopeDbPerS := cov / var, spanS := span,
        deltaDb := cov / var * span, linkSpeedMbps := newest.linkSpeedMbps,
        linkSpeedPeakMbps := (c.radioWindow.map (·.linkSpeedMbps)).foldl max 0 }
  | _, _ => {}

/-! ## What the steps leave alone -/

/-- What only `configure`, `set_ceiling` and the headset's switches change. -/
structure Settings where
  conf : Config
  clientEnabled : Bool
  clientMode : Option BitrateMode
  radioAware : Bool
  ceiling : ℕ
  minBitrate : ℕ
deriving DecidableEq, Repr

def settings (c : BitrateController) : Settings :=
  ⟨c.conf, c.clientEnabled, c.clientMode, c.radioAware, c.ceiling, c.minBitrate⟩

/-- The settings, and what the decisions move: the bitrate and the rebound of v1. -/
structure Core where
  settings : Settings
  bitrate : ℕ
  st : AimdState
  recoveryTarget : ℕ
deriving DecidableEq, Repr

def core (c : BitrateController) : Core := ⟨c.settings, c.bitrate, c.st, c.recoveryTarget⟩

theorem settings_of_core {c c' : BitrateController} (h : c'.core = c.core) :
    c'.settings = c.settings := congrArg Core.settings h

theorem bitrate_of_core {c c' : BitrateController} (h : c'.core = c.core) :
    c'.bitrate = c.bitrate := congrArg Core.bitrate h

@[simp] theorem flush_settings (c : BitrateController) : c.flush.settings = c.settings := rfl
@[simp] theorem flush_bitrate (c : BitrateController) : c.flush.bitrate = c.bitrate := rfl

/-- Closing a frame does nothing in a free slot. Else it touches the estimate, leaves at
most one sample, none of a stale frame, and frees the slot. -/
theorem closeFrame_cases (c : BitrateController) (i : Fin frameRingSize) (now : ℤ) :
    (c.frames i).index = noFrame ∧ c.closeFrame i now = c ∨
      (c.frames i).index ≠ noFrame ∧ ∃ bandwidth samples last window,
        c.closeFrame i now =
          { c with
            bandwidth := bandwidth, bandwidthSamples := samples, lastBandwidthSample := last,
            window := window, frames := Function.update c.frames i {} } ∧
        (window = c.window ∨ c.staleBefore ≤ (c.frames i).index ∧
          ∃ sample, window = c.window ++ [sample]) := by
  have hrate : ∀ rate, ∃ bandwidth samples last, c.addRate rate now =
      { c with
        bandwidth := bandwidth, bandwidthSamples := samples, lastBandwidthSample := last } := by
    intro rate
    unfold addRate
    split <;> exact ⟨_, _, _, rfl⟩
  unfold closeFrame
  dsimp only
  split
  · rename_i hfree
    exact .inl ⟨hfree, rfl⟩
  · rename_i htaken
    refine .inr ⟨htaken, ?_⟩
    split
    · split
      · rename_i hfresh
        exact ⟨_, _, _, _, rfl, .inr ⟨of_decide_eq_true hfresh, _, rfl⟩⟩
      · exact ⟨_, _, _, _, rfl, .inl rfl⟩
    · split
      · rcases hrate (c.deliveryRate (c.frames i)) with ⟨bandwidth, samples, last, hadded⟩
        rw [hadded]
        split
        · rename_i hfresh
          exact ⟨_, _, _, _, rfl, .inr ⟨of_decide_eq_true hfresh, _, rfl⟩⟩
        · exact ⟨_, _, _, _, rfl, .inl rfl⟩
      · exact ⟨_, _, _, _, rfl, .inl rfl⟩

theorem closeFrame_core (c : BitrateController) (i : Fin frameRingSize) (now : ℤ) :
    (c.closeFrame i now).core = c.core := by
  rcases c.closeFrame_cases i now with
    ⟨-, hkept⟩ | ⟨-, bandwidth, samples, last, window, hclosed, -⟩
  · rw [hkept]
  · rw [hclosed]
    rfl

theorem noteNewest_core (c : BitrateController) (frameIndex : ℕ) :
    (c.noteNewest frameIndex).core = c.core := by
  unfold noteNewest
  split <;> rfl

theorem claimSlot_core (c : BitrateController) (frameIndex : ℕ) (now : ℤ) :
    (c.claimSlot frameIndex now).core = c.core := by
  unfold claimSlot
  split
  · rfl
  · exact closeFrame_core c (slot frameIndex) now

theorem trackFrame_core {c c' : BitrateController} {frameIndex : ℕ} {now : ℤ}
    (h : c.trackFrame frameIndex now = some c') : c'.core = c.core := by
  unfold trackFrame at h
  split at h
  · cases h
  · cases h
    exact (claimSlot_core _ frameIndex now).trans (noteNewest_core c frameIndex)

theorem onFrameBytes_core (c : BitrateController) (frameIndex streamIndex bytes : ℕ) (now : ℤ) :
    (c.onFrameBytes frameIndex streamIndex bytes now).core = c.core := by
  unfold onFrameBytes
  split
  · rfl
  · split
    · rfl
    · split
      · rfl
      · rename_i c' htrack
        have hcore := trackFrame_core htrack
        exact hcore

end BitrateController

end WivrnNx
