import WivrnNx.Bitrate.Controller

/-!
# The decisions of the bitrate controller

`on_feedback` with `evaluate`, the AIMD law (v1) and the bandwidth estimation law
(v2), and `on_wifi_state`, the preemptive step that the radio trend asks for.

- `Decides`: an operation returns the bitrate it leaves, or nothing and has left it
  alone;
- `onFeedback_decides`, `onWifiState_decides`: both do;
- `reset_eq`: so does every return to the ceiling.
-/

namespace WivrnNx.BitrateController

/-- The end of every decision: a bitrate that moved is returned. -/
def report (previous : ℕ) (c : BitrateController) : BitrateController × Option ℕ :=
  if c.bitrate = previous then (c, none) else (c, some c.bitrate)

/-! ## v1: additive increase, multiplicative decrease -/

/-- Too much for the link, by any of the four signals. -/
def severe (s : Stats) : Bool :=
  decide (utilisationSevere < s.utilisation) || decide (lostFramesSevere ≤ s.lost) ||
    decide (lateFramesSevere ≤ s.late)

def degraded (s : Stats) : Bool :=
  severe s || decide (utilisationDecrease < s.utilisation) ||
    decide (lostFramesDecrease ≤ s.lost) || decide (lateFramesDecrease ≤ s.late)

def healthy (s : Stats) : Bool :=
  decide (s.utilisation < utilisationIncrease) && s.lost == 0 && s.late == 0

/-- Congestion came back while rebounding: aim lower next time. -/
def lowerTarget (c : BitrateController) : BitrateController :=
  if c.st = .recovering
  then { c with recoveryTarget := c.clamp (trunc (c.recoveryTarget * recoveryTargetBackoff)) }
  else c

/-- The drop: deep, with a rebound to follow, or gentle. -/
def drop (c : BitrateController) (severe : Bool) : BitrateController :=
  if severe then
    { c with
      recoveryTarget := if c.st ≠ .recovering then c.bitrate else c.recoveryTarget
      bitrate := c.clamp (trunc (c.bitrate * deepDecreaseFactor))
      st := .recovering
      firstRecoveryStep := true
      radioHold := false }
  else { c with bitrate := c.clamp (trunc (c.bitrate * decreaseFactor)) }

/-- There is nothing left to rebound to. -/
def settle (c : BitrateController) : BitrateController :=
  if c.st = .recovering ∧ c.recoveryTarget ≤ c.bitrate then { c with st := .steady } else c

/-- A decrease of the AIMD law, outside its cooldown. -/
def aimdDecrease (c : BitrateController) (severe : Bool) (now : ℤ) : BitrateController :=
  ((({ c with lastDecrease := now }.lowerTarget).drop severe).settle).flush

/-- How long the link has to be healthy before a rebound step. -/
def reboundHold (c : BitrateController) : ℤ :=
  if c.firstRecoveryStep then recoveryConfirm else recoveryStepInterval

/-- A rebound step, towards the bitrate before the drop. -/
def aimdRebound (c : BitrateController) : BitrateController :=
  let target := min c.recoveryTarget (c.clamp (trunc (c.bitrate * recoveryFactor)))
  let st := if c.recoveryTarget ≤ target then .steady else c.st
  { c with bitrate := target, firstRecoveryStep := false, st := st }.flush

/-- The additive step: whichever is larger. -/
def increaseStep (c : BitrateController) : ℕ :=
  max increaseStepMin (trunc (c.ceiling * increaseStepRatio))

/-- An additive increase. -/
def aimdIncrease (c : BitrateController) : BitrateController :=
  let c := { c with bitrate := c.clamp (c.bitrate + c.increaseStep) }
  { c with recoveryTarget := c.bitrate }.flush

/-- `evaluate_aimd`. -/
def evaluateAimd (c : BitrateController) (now : ℤ) (s : Stats) : BitrateController × Option ℕ :=
  if degraded s then
    let c := { c with healthySince := none }
    if now - c.lastDecrease < decreaseCooldown then (c, none)
    else report c.bitrate (c.aimdDecrease (severe s) now)
  else if healthy s then
    let since := c.healthySince.getD now
    let c := { c with healthySince := some since }
    let held := now - since
    if c.st = .recovering then
      if held < c.reboundHold then (c, none) else report c.bitrate c.aimdRebound
    -- The radio says the signal is still on the way down
    else if c.radioHold then (c, none)
    else if held < increaseHold ∨ c.ceiling ≤ c.bitrate then (c, none)
    else report c.bitrate c.aimdIncrease
  else
    -- Between the two thresholds
    ({ c with healthySince := none }, none)

/-! ## v2: a gain on the bandwidth estimate -/

/-- How much slower than the best of the window the link hands frames over. -/
def slowdown (c : BitrateController) (s : Stats) : ℚ :=
  if c.bandwidth.valid ∧ 0 < s.rate then c.bandwidth.get / s.rate else 1

/-- A probe is a deliberate overshoot: while one runs, its own is no congestion. -/
def acute (c : BitrateController) (s : Stats) : Bool :=
  decide (lostFramesDecrease ≤ s.lost) || decide (lateFramesDecrease ≤ s.late) ||
    (c.bbrSt != .probe && (decide (utilisationSevere < s.utilisation) ||
      (c.bbrSt != .startup && decide (slowdownBackoff < c.slowdown s))))

/-- An estimate that no loaded frame has refreshed for a whole window is dropped. -/
def dropStaleEstimate (c : BitrateController) (now : ℤ) : BitrateController :=
  if c.bandwidthSamples ≠ 0 ∧ estimatorWindow < now - c.lastBandwidthSample
  then { c with bandwidth := {}, bandwidthSamples := 0 } else c

/-- Nothing measured and nothing wrong: v1's blind additive probe, hold and all. -/
def bbrUnmeasured (c : BitrateController) (now : ℤ) (s : Stats) :
    BitrateController × Option ℕ :=
  if ¬ healthy s ∨ c.radioHold then ({ c with healthySince := none }, none)
  else
    let since := c.healthySince.getD now
    let c := { c with healthySince := some since }
    if now - since < increaseHold ∨ c.ceiling ≤ c.bitrate then (c, none)
    else report c.bitrate { c with bitrate := c.clamp (c.bitrate + c.increaseStep) }.flush

/-- Nothing measured, and the link just failed: what is being sent is too much. -/
def seedEstimate (c : BitrateController) (now : ℤ) : BitrateController :=
  if c.bandwidthSamples < estimatorMinSamples then
    { c with
      bandwidth := ({} : MaxFilter).update c.bitrate now estimatorWindow
      bandwidthSamples := estimatorMinSamples
      lastBandwidthSample := now }
  else c

/-- Backing off: what the filter remembers was never really deliverable. -/
def bbrBackoff (c : BitrateController) (now : ℤ) (s : Stats) : BitrateController :=
  let c :=
    { c with
      lastDecrease := now
      bandwidth := c.bandwidth.cap
        (if 0 < s.rate then s.rate else backoffFactor * c.bandwidth.get)
      bbrSt := .steady
      startupStalled := startupStallRounds
      lastProbe := now
      lastBbrChange := now
      probeUntil := 0 }
  { c with bitrate := c.clamp (trunc (backoffFactor * c.bandwidth.get)) }.flush

/-- A degrading radio ends the ramp and the probing. -/
def bbrRadio (c : BitrateController) (now : ℤ) : BitrateController :=
  if c.radioHold ∧ c.bbrSt ≠ .steady
  then { c with bbrSt := .steady, probeUntil := 0, lastProbe := now } else c

/-- The rounds of the startup ramp: how many in a row the estimate has been flat. -/
def bbrRound (c : BitrateController) (now : ℤ) : BitrateController :=
  let bw := c.bandwidth.get
  if c.roundStarted = 0 then { c with roundStarted := now, startupMark := bw }
  else if roundDuration ≤ now - c.roundStarted then
    { c with
      startupStalled := if startupGrowth * c.startupMark < bw then 0 else c.startupStalled + 1
      startupMark := bw
      roundStarted := now }
  else c

/-- The startup ramp: over once the estimate has been flat for three rounds. -/
def bbrStartup (c : BitrateController) (now : ℤ) : BitrateController :=
  let c := c.bbrRound now
  if startupStallRounds ≤ c.startupStalled then { c with bbrSt := .steady, lastProbe := now }
  else c

/-- The state machine of v2, and whether the bitrate has to follow at once. -/
def bbrStep (c : BitrateController) (now : ℤ) : BitrateController × Bool :=
  match c.bbrSt with
  | .startup => (c.bbrStartup now, false)
  | .probe =>
    -- The drain back to the steady gain does not wait for the samples to age out
    if c.probeUntil ≤ now then ({ c with bbrSt := .steady, lastProbe := now }.flush, true)
    else (c, false)
  | .steady =>
    if ¬ c.radioHold ∧ probeInterval ≤ now - c.lastProbe ∧ c.bitrate < c.ceiling
    then ({ c with bbrSt := .probe, probeUntil := now + probeDuration }, false) else (c, false)

/-- The gain of the state. -/
def bbrGain (c : BitrateController) : ℚ :=
  match c.bbrSt with
  | .startup => gainStartup
  | .probe => gainProbe
  | .steady => if c.radioHold then gainRadio else gainSteady

/-- Once out of the ramp, small and fast moves are not followed. -/
def bbrHolds (c : BitrateController) (forced : Bool) (target : ℕ) (now : ℤ) : Bool :=
  c.bbrSt != .startup && !forced &&
    (decide (now - c.lastBbrChange < steadyInterval) ||
      (c.bitrate != 0 &&
        decide (|(target : ℚ) - c.bitrate| < steadyChangeThreshold * c.bitrate)))

/-- The bitrate follows the estimate. -/
def bbrFollow (c : BitrateController) (now : ℤ) : BitrateController × Option ℕ :=
  let bw := c.bandwidth.get
  let previous := c.bitrate
  let (c, forced) := (c.bbrRadio now).bbrStep now
  let target := c.clamp (trunc (c.bbrGain * bw))
  if c.bbrHolds forced target now then (c, none)
  else
    let c := { c with bitrate := target, lastBbrChange := now }
    report previous (if c.bitrate ≠ previous then c.flush else c)

/-- `evaluate_bbr`. -/
def evaluateBbr (c : BitrateController) (now : ℤ) (s : Stats) : BitrateController × Option ℕ :=
  -- The measurements have not caught up with the last change yet
  if c.lastBbrChange ≠ 0 ∧ now - c.lastBbrChange < changeSettle then (c, none)
  else
    let acute := c.acute s
    let c := c.dropStaleEstimate now
    if c.bandwidthSamples < estimatorMinSamples ∧ ¬ acute then c.bbrUnmeasured now s
    else
      let c := c.seedEstimate now
      if acute then
        if now - c.lastDecrease < decreaseCooldown then (c, none)
        else report c.bitrate (c.bbrBackoff now s)
      else c.bbrFollow now

/-! ## Feedback and Wi-Fi reports -/

/-- The headset stopped reporting its radio: the hold is released. -/
def releaseStaleHold (c : BitrateController) (now : ℤ) : BitrateController :=
  if c.radioHold ∧ radioMaxAge < now - c.lastRadioSample then { c with radioHold := false } else c

/-- `evaluate`. -/
def evaluate (c : BitrateController) (now : ℤ) : BitrateController × Option ℕ :=
  if now - c.lastEvaluation < evaluationInterval then (c, none)
  else
    let c := ({ c with lastEvaluation := now }.releaseStaleHold now).pruneWindow now
    if c.stats.count < minSamples then (c, none)
    else
      match c.mode with
      | .bbr => c.evaluateBbr now c.stats
      | .aimd => c.evaluateAimd now c.stats

/-- `on_feedback`. -/
def onFeedback (c : BitrateController) (feedback : Feedback) (periodNs : ℤ) (streaming : Bool)
    (now : ℤ) : BitrateController × Option ℕ :=
  if ¬ c.enabled ∨ ¬ streaming ∨ c.ceiling = 0 ∨ periodNs ≤ 0 then (c, none)
  else if videoStreamCount ≤ feedback.streamIndex then (c, none)
  else
    let c := { c with framePeriod := periodNs }
    match c.trackFrame feedback.frameIndex now with
    | none => (c, none)
    | some c =>
      let f := c.frames (slot feedback.frameIndex)
      (c.setFrame (slot feedback.frameIndex) (joinFeedback feedback f)).evaluate now

/-- A Wi-Fi report joins the window; a gap in the reports starts a new trend. -/
def addRadioSample (c : BitrateController) (rssiDbm linkSpeedMbps : ℤ) (when' : ℤ) :
    BitrateController :=
  let c :=
    if c.radioWindow ≠ [] ∧ radioMaxAge < when' - c.lastRadioSample
    then { c with radioWindow := [], radioEma := none, radioHold := false,
                  radioStableSince := none }
    else c
  let ema : ℚ :=
    match c.radioEma with
    | some ema => radioEmaAlpha * rssiDbm + (1 - radioEmaAlpha) * ema
    | none => rssiDbm
  let sample : RadioSample :=
    { when' := when', rssiDbm := ema, linkSpeedMbps := max 0 linkSpeedMbps }
  { c with
    lastRadioSample := when'
    radioEma := some ema
    radioWindow := (c.radioWindow ++ [sample]).dropWhile
      fun s => radioTrendWindow < when' - s.when' }

/-- A real fall, and low enough that it has nothing left to eat into. -/
def falling (t : RadioTrend) : Bool :=
  decide (t.deltaDb < -radioFallDb) && decide (t.rssiDbm < radioLowRssiDbm)

/-- The PHY rate collapsed, and what is left has no room for what is being sent. -/
def starved (c : BitrateController) (t : RadioTrend) : Bool :=
  decide (0 < t.linkSpeedMbps) && decide (0 < t.linkSpeedPeakMbps) &&
    decide ((t.linkSpeedMbps : ℚ) ≤ radioLinkSpeedCollapse * t.linkSpeedPeakMbps) &&
    decide ((t.linkSpeedMbps : ℚ) * 1000000 < radioLinkSpeedHeadroom * c.bitrate)

/-- The hold is released when the signal comes back up. -/
def releaseRisingHold (c : BitrateController) (t : RadioTrend) : BitrateController :=
  if c.radioHold ∧ radioRiseDb < t.deltaDb ∧ radioLowRssiDbm < t.rssiDbm
  then { c with radioHold := false } else c

/-- The hold is released when the signal has been stable for long enough. -/
def releaseStableHold (c : BitrateController) (t : RadioTrend) (when' : ℤ) :
    BitrateController :=
  if c.radioHold ∧ ¬ falling t ∧ ¬ c.starved t ∧ |t.slopeDbPerS| < radioStableSlope then
    match c.radioStableSince with
    | none => { c with radioStableSince := some when' }
    | some since =>
      if radioStableHold ≤ when' - since
      then { c with radioHold := false, radioStableSince := none } else c
  else { c with radioStableSince := none }

/-- The bitrate of a preemptive step: never upwards, under either law. -/
def radioDecrease (c : BitrateController) (when' : ℤ) : BitrateController :=
  if c.mode = .bbr ∧ c.bandwidth.valid then
    let target := c.clamp (trunc (gainRadio * c.bandwidth.get))
    if target < c.bitrate
    then { c with bbrSt := .steady, bitrate := target, lastBbrChange := when' }
    else { c with bbrSt := .steady }
  else { c with bitrate := c.clamp (trunc (c.bitrate * decreaseFactor)) }

/-- The preemptive step holds the probing, whether or not the bitrate could move. -/
def radioStep (c : BitrateController) (when' : ℤ) : BitrateController :=
  { c.radioDecrease when' with
    radioHold := true, lastDecrease := when', lastRadioStep := when' }

/-- `on_wifi_state`. -/
def onWifiState (c : BitrateController) (rssiDbm linkSpeedMbps : ℤ) (when' : ℤ) :
    BitrateController × Option ℕ :=
  if ¬ c.enabled ∨ ¬ c.radioAware ∨ c.ceiling = 0 then (c, none)
  -- Sentinels and nonsense
  else if 0 ≤ rssiDbm ∨ rssiDbm ≤ -110 then (c, none)
  else
    let c := c.addRadioSample rssiDbm linkSpeedMbps when'
    let trend := c.radioTrend
    if ¬ trend.usable then (c, none)
    -- The deep drop and its rebound are a closed loop of their own
    else if c.mode = .aimd ∧ c.st = .recovering then (c, none)
    else
      let c := (c.releaseRisingHold trend).releaseStableHold trend when'
      if ¬ falling trend ∧ ¬ c.starved trend then (c, none)
      else if when' - c.lastDecrease < decreaseCooldown ∨
          when' - c.lastRadioStep < radioStepInterval then (c, none)
      else
        let previous := c.bitrate
        let c := c.radioStep when'
        report previous (if c.bitrate = previous then c else c.flush)

/-! ## What a call comes to -/

/-- What `evaluate_aimd` comes to: nothing but the time since when the link has been
healthy, or one of its three steps. -/
inductive AimdOutcome (c : BitrateController) (now : ℤ) (s : Stats) :
    BitrateController × Option ℕ → Prop where
  | waits (since : Option ℤ) (hsince : since = none ∨ since = some (c.healthySince.getD now)) :
      AimdOutcome c now s ({ c with healthySince := since }, none)
  | decreases (hdegraded : degraded s = true) (hcooled : decreaseCooldown ≤ now - c.lastDecrease) :
      AimdOutcome c now s
        (report c.bitrate ({ c with healthySince := none }.aimdDecrease (severe s) now))
  | rebounds (hst : c.st = .recovering) (hheld : c.reboundHold ≤ now - c.healthySince.getD now) :
      AimdOutcome c now s
        (report c.bitrate { c with healthySince := some (c.healthySince.getD now) }.aimdRebound)
  | increases (hst : c.st = .steady) (hradio : c.radioHold = false)
      (hheld : increaseHold ≤ now - c.healthySince.getD now) :
      AimdOutcome c now s
        (report c.bitrate { c with healthySince := some (c.healthySince.getD now) }.aimdIncrease)

theorem evaluateAimd_outcome (c : BitrateController) (now : ℤ) (s : Stats) :
    AimdOutcome c now s (c.evaluateAimd now s) := by
  unfold evaluateAimd
  dsimp only
  split
  · rename_i hdegraded
    split
    · exact .waits _ (.inl rfl)
    · rename_i hcooled
      exact .decreases hdegraded (not_lt.mp hcooled)
  · split
    · split
      · rename_i hst
        split
        · exact .waits _ (.inr rfl)
        · rename_i hheld
          exact .rebounds hst (not_lt.mp hheld)
      · rename_i hst
        have hsteady : c.st = .steady := by
          cases hc : c.st with
          | steady => rfl
          | recovering => exact absurd hc hst
        split
        · exact .waits _ (.inr rfl)
        · rename_i hradio
          split
          · exact .waits _ (.inr rfl)
          · rename_i hheld
            exact .increases hsteady (Bool.eq_false_of_not_eq_true hradio)
              (not_lt.mp (not_or.mp hheld).1)
    · exact .waits _ (.inl rfl)

/-- What a Wi-Fi report comes to: with `c₁` it has joined the trend, with `c₂` it may have
let go of the hold. -/
inductive WifiOutcome (c c₁ c₂ : BitrateController) (when' : ℤ) :
    BitrateController × Option ℕ → Prop where
  | ignored : WifiOutcome c c₁ c₂ when' (c, none)
  | joined : WifiOutcome c c₁ c₂ when' (c₁, none)
  | held (hrebound : ¬ (c₁.mode = .aimd ∧ c₁.st = .recovering)) :
      WifiOutcome c c₁ c₂ when' (c₂, none)
  | stepped (hrebound : ¬ (c₁.mode = .aimd ∧ c₁.st = .recovering)) (hon : c.enabled = true)
      (hlimited : c.ceiling ≠ 0) (hcooled : decreaseCooldown ≤ when' - c₂.lastDecrease) :
      WifiOutcome c c₁ c₂ when'
        (report c₂.bitrate
          (if (c₂.radioStep when').bitrate = c₂.bitrate then c₂.radioStep when'
          else (c₂.radioStep when').flush))

theorem onWifiState_outcome (c : BitrateController) (rssiDbm linkSpeedMbps when' : ℤ) :
    let c₁ := c.addRadioSample rssiDbm linkSpeedMbps when'
    WifiOutcome c c₁ ((c₁.releaseRisingHold c₁.radioTrend).releaseStableHold c₁.radioTrend when')
      when' (c.onWifiState rssiDbm linkSpeedMbps when') := by
  unfold onWifiState
  dsimp only
  split
  · exact .ignored
  · rename_i hguard
    simp only [not_or, not_not] at hguard
    split
    · exact .ignored
    · split
      · exact .joined
      · split
        · exact .joined
        · rename_i hrebound
          split
          · exact .held hrebound
          · split
            · exact .held hrebound
            · rename_i hcooled
              exact .stepped hrebound hguard.1 hguard.2.2 (not_lt.mp (not_or.mp hcooled).1)

/-! ## What every operation reports -/

/-- The bitrate afterwards is the one returned, or else the one before; the settings
stay. -/
structure Decides (c : BitrateController) (r : BitrateController × Option ℕ) : Prop where
  reports : r.1.bitrate = r.2.getD c.bitrate
  settings : r.1.settings = c.settings

/-- Nothing is returned, and the bitrate stays. -/
theorem decides_none {c c' : BitrateController} (hcore : c'.core = c.core) :
    Decides c (c', none) :=
  ⟨bitrate_of_core hcore, settings_of_core hcore⟩

theorem decides_report {c c' : BitrateController} {previous : ℕ}
    (hsettings : c'.settings = c.settings) (hprevious : previous = c.bitrate) :
    Decides c (report previous c') := by
  unfold report
  split
  · rename_i hsame
    exact ⟨hsame.trans hprevious, hsettings⟩
  · exact ⟨rfl, hsettings⟩

/-- Steps before the decision that move neither. -/
theorem Decides.after {c c' : BitrateController} {r : BitrateController × Option ℕ}
    (hr : Decides c' r) (hcore : c'.core = c.core) : Decides c r := by
  constructor
  · rw [hr.reports, bitrate_of_core hcore]
  · rw [hr.settings, settings_of_core hcore]

theorem drop_settings (c : BitrateController) (severe : Bool) :
    (c.drop severe).settings = c.settings := by
  unfold drop
  split <;> rfl

theorem settle_settings (c : BitrateController) : c.settle.settings = c.settings := by
  unfold settle
  split <;> rfl

theorem lowerTarget_settings (c : BitrateController) : c.lowerTarget.settings = c.settings := by
  unfold lowerTarget
  split <;> rfl

theorem aimdDecrease_settings (c : BitrateController) (severe : Bool) (now : ℤ) :
    (c.aimdDecrease severe now).settings = c.settings := by
  rw [aimdDecrease, flush_settings, settle_settings, drop_settings, lowerTarget_settings]
  rfl

theorem evaluateAimd_decides (c : BitrateController) (now : ℤ) (s : Stats) :
    Decides c (c.evaluateAimd now s) := by
  have houtcome := evaluateAimd_outcome c now s
  generalize c.evaluateAimd now s = r at *
  cases houtcome with
  | waits => exact decides_none rfl
  | decreases => exact decides_report (aimdDecrease_settings _ _ _) rfl
  | rebounds => exact decides_report rfl rfl
  | increases => exact decides_report rfl rfl

theorem bbrUnmeasured_decides (c : BitrateController) (now : ℤ) (s : Stats) :
    Decides c (c.bbrUnmeasured now s) := by
  simp only [bbrUnmeasured]
  split
  · exact decides_none rfl
  · split
    · exact decides_none rfl
    · exact decides_report rfl rfl

/-- The state machine of v2 moves no bitrate by itself. -/
theorem bbrStep_core (c : BitrateController) (now : ℤ) : (c.bbrStep now).1.core = c.core := by
  have hround : (c.bbrRound now).core = c.core := by
    simp only [bbrRound]
    split
    · rfl
    · split <;> rfl
  have hstartup : (c.bbrStartup now).core = c.core := by
    simp only [bbrStartup]
    split <;> exact hround
  unfold bbrStep
  split
  · exact hstartup
  · split <;> rfl
  · split <;> rfl

theorem bbrRadio_core (c : BitrateController) (now : ℤ) : (c.bbrRadio now).core = c.core := by
  unfold bbrRadio
  split <;> rfl

theorem bbrFollow_decides (c : BitrateController) (now : ℤ) : Decides c (c.bbrFollow now) := by
  have hcore := (bbrStep_core (c.bbrRadio now) now).trans (bbrRadio_core c now)
  simp only [bbrFollow]
  split
  · exact decides_none hcore
  · have hsettings := settings_of_core hcore
    refine decides_report ?_ rfl
    split <;> exact hsettings

theorem dropStaleEstimate_core (c : BitrateController) (now : ℤ) :
    (c.dropStaleEstimate now).core = c.core := by
  unfold dropStaleEstimate
  split <;> rfl

theorem seedEstimate_core (c : BitrateController) (now : ℤ) :
    (c.seedEstimate now).core = c.core := by
  unfold seedEstimate
  split <;> rfl

theorem evaluateBbr_decides (c : BitrateController) (now : ℤ) (s : Stats) :
    Decides c (c.evaluateBbr now s) := by
  have hdrop := dropStaleEstimate_core c now
  simp only [evaluateBbr]
  split
  · exact decides_none rfl
  · split
    · exact (bbrUnmeasured_decides _ now s).after hdrop
    · have hcore := (seedEstimate_core (c.dropStaleEstimate now) now).trans hdrop
      have hsettings := settings_of_core hcore
      split
      · split
        · exact decides_none hcore
        · exact decides_report hsettings (bitrate_of_core hcore)
      · exact (bbrFollow_decides _ now).after hcore

theorem releaseStaleHold_core (c : BitrateController) (now : ℤ) :
    (c.releaseStaleHold now).core = c.core := by
  unfold releaseStaleHold
  split <;> rfl

theorem evaluate_decides (c : BitrateController) (now : ℤ) : Decides c (c.evaluate now) := by
  simp only [evaluate]
  split
  · exact decides_none rfl
  · have hcore := releaseStaleHold_core { c with lastEvaluation := now } now
    split
    · exact decides_none hcore
    · split
      · exact (evaluateBbr_decides _ now _).after hcore
      · exact (evaluateAimd_decides _ now _).after hcore

/-- Feedback returns the bitrate it leaves. -/
theorem onFeedback_decides (c : BitrateController) (feedback : Feedback) (periodNs : ℤ)
    (streaming : Bool) (now : ℤ) : Decides c (c.onFeedback feedback periodNs streaming now) := by
  simp only [onFeedback]
  split
  · exact decides_none rfl
  · split
    · exact decides_none rfl
    · split
      · exact decides_none rfl
      · rename_i c' htrack
        have hcore := trackFrame_core htrack
        exact (evaluate_decides _ now).after hcore

theorem addRadioSample_core (c : BitrateController) (rssiDbm linkSpeedMbps when' : ℤ) :
    (c.addRadioSample rssiDbm linkSpeedMbps when').core = c.core := by
  simp only [addRadioSample]
  split <;> rfl

theorem releaseRisingHold_core (c : BitrateController) (t : RadioTrend) :
    (c.releaseRisingHold t).core = c.core := by
  unfold releaseRisingHold
  split <;> rfl

theorem releaseStableHold_core (c : BitrateController) (t : RadioTrend) (when' : ℤ) :
    (c.releaseStableHold t when').core = c.core := by
  unfold releaseStableHold
  split
  · split
    · rfl
    · split <;> rfl
  · rfl

/-- The holds are released before anything is decided. -/
theorem releaseHolds_core (c : BitrateController) (t : RadioTrend) (when' : ℤ) :
    ((c.releaseRisingHold t).releaseStableHold t when').core = c.core :=
  (releaseStableHold_core _ t when').trans (releaseRisingHold_core c t)

theorem radioStep_settings (c : BitrateController) (when' : ℤ) :
    (c.radioStep when').settings = c.settings := by
  have hdecrease : (c.radioDecrease when').settings = c.settings := by
    simp only [radioDecrease]
    split
    · split <;> rfl
    · rfl
  exact hdecrease

/-- A Wi-Fi report returns the bitrate it leaves. -/
theorem onWifiState_decides (c : BitrateController) (rssiDbm linkSpeedMbps when' : ℤ) :
    Decides c (c.onWifiState rssiDbm linkSpeedMbps when') := by
  have hsample := addRadioSample_core c rssiDbm linkSpeedMbps when'
  have houtcome := onWifiState_outcome c rssiDbm linkSpeedMbps when'
  generalize c.addRadioSample rssiDbm linkSpeedMbps when' = c₁ at *
  have hcore := (releaseHolds_core c₁ c₁.radioTrend when').trans hsample
  generalize c.onWifiState rssiDbm linkSpeedMbps when' = r at *
  cases houtcome with
  | ignored => exact decides_none rfl
  | joined => exact decides_none hsample
  | held => exact decides_none hcore
  | stepped =>
    have hsettings := settings_of_core hcore
    refine decides_report ?_ (bitrate_of_core hcore)
    split
    · exact (radioStep_settings _ _).trans hsettings
    · exact (radioStep_settings _ _).trans hsettings

/-- A reset returns the ceiling, which is the bitrate it leaves. -/
theorem reset_eq {c : BitrateController} (h : c.ceiling ≠ 0) :
    c.reset.2 = some c.ceiling ∧ c.reset.1.bitrate = c.ceiling ∧
      c.reset.1.settings = c.settings := by
  simp only [reset, if_neg h]
  exact ⟨rfl, rfl, rfl⟩

/-- The headset's switch: a change of it starts over from the ceiling. -/
theorem setClientEnabled_spec {c : BitrateController} (h : c.ceiling ≠ 0) (enabled : Bool) :
    let r := c.setClientEnabled enabled
    r.1.bitrate = r.2.getD c.bitrate ∧ r.1.ceiling = c.ceiling ∧ r.1.conf = c.conf ∧
      r.1.clientMode = c.clientMode ∧ (r.2 ≠ none ↔ enabled ≠ c.clientEnabled) := by
  simp only [setClientEnabled]
  split
  · rename_i hsame
    exact ⟨rfl, rfl, rfl, rfl, by simp [hsame]⟩
  · rename_i hchanged
    rcases reset_eq (c := { c with clientEnabled := enabled }) h with ⟨hsome, hbitrate, hsettings⟩
    refine ⟨by rw [hsome, hbitrate]; rfl, congrArg Settings.ceiling hsettings,
      congrArg Settings.conf hsettings, congrArg Settings.clientMode hsettings, ?_⟩
    simp [hsome, hchanged]

/-- The headset's selector: a change of the law in force starts over from the
ceiling. -/
theorem setClientMode_spec {c : BitrateController} (h : c.ceiling ≠ 0)
    (m : Option BitrateMode) :
    let r := c.setClientMode m
    r.1.bitrate = r.2.getD c.bitrate ∧ r.1.ceiling = c.ceiling ∧
      (r.2 ≠ none ↔ m.getD c.conf.control ≠ c.mode) := by
  simp only [setClientMode]
  split
  · rename_i hsame
    exact ⟨rfl, rfl, by simp [hsame, mode]⟩
  · split
    · rename_i hlaw
      refine ⟨rfl, rfl, ?_⟩
      have hmode : m.getD c.conf.control = c.mode := hlaw.symm
      simp [hmode]
    · rename_i hlaw
      rcases reset_eq (c := { c with clientMode := m }) h with ⟨hsome, hbitrate, hsettings⟩
      have hmode : m.getD c.conf.control ≠ c.mode := fun heq => hlaw heq.symm
      refine ⟨by rw [hsome, hbitrate]; rfl, congrArg Settings.ceiling hsettings, ?_⟩
      simp [hsome, hmode]

end WivrnNx.BitrateController
