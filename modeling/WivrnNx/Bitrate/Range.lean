import WivrnNx.Bitrate.Control

/-!
# The range of the bitrate

Two control laws, the radio law and four switches all write the same bitrate.

- `Op`, `act`: every operation that a session calls after `configure`;
- `InRange`: the bitrate is between the floor and the ceiling, at the ceiling while
  the control is off, and below its rebound target while v1 is recovering;
- `range_invariant`: all of it holds after every run of operations, each of which
  returns the bitrate exactly when it reports one.
-/

namespace WivrnNx.BitrateController

/-- The operations on a configured controller. -/
inductive Op where
  | onFeedback (feedback : Feedback) (periodNs : ℤ) (streaming : Bool) (now : ℤ)
  | onWifiState (rssiDbm linkSpeedMbps when' : ℤ)
  | onFrameBytes (frameIndex streamIndex bytes : ℕ) (now : ℤ)
  | setClientEnabled (enabled : Bool)
  | setClientMode (m : Option BitrateMode)
  | setRadioAware (enabled : Bool)
  | setPacingWindow (window : ℚ)
  | setCeiling (ceilingBps : ℕ)
  | reset

/-- One operation and what it returns. -/
def act (c : BitrateController) : Op → BitrateController × Option ℕ
  | .onFeedback feedback periodNs streaming now => c.onFeedback feedback periodNs streaming now
  | .onWifiState rssiDbm linkSpeedMbps when' => c.onWifiState rssiDbm linkSpeedMbps when'
  | .onFrameBytes frameIndex streamIndex bytes now =>
    (c.onFrameBytes frameIndex streamIndex bytes now, none)
  | .setClientEnabled enabled => c.setClientEnabled enabled
  | .setClientMode m => c.setClientMode m
  | .setRadioAware enabled => (c.setRadioAware enabled, none)
  | .setPacingWindow window => (c.setPacingWindow window, none)
  | .setCeiling ceilingBps => c.setCeiling ceilingBps
  | .reset => c.reset

/-- Any sequence of operations. -/
def run (c : BitrateController) (ops : List Op) : BitrateController :=
  ops.foldl (fun c op => (c.act op).1) c

/-- `current`. -/
def current (c : BitrateController) : ℕ := c.bitrate

/-- What the callers may rely on. -/
structure InRange (c : BitrateController) : Prop where
  floor : c.minBitrate ≤ c.current
  ceiling : c.current ≤ c.ceiling
  off : c.enabled = false → c.current = c.ceiling
  recovering : c.st = .recovering → c.current < c.recoveryTarget ∧ c.recoveryTarget ≤ c.ceiling

/-- A value returned is the bitrate from now on; with nothing returned it stayed. -/
structure Answers (c : BitrateController) (r : BitrateController × Option ℕ) : Prop where
  returned : ∀ v, r.2 = some v → v = r.1.current
  silent : r.2 = none → r.1.current = c.current

/-- The invariant: v1's rebound exists only under v1. -/
structure Ranged (c : BitrateController) : Prop where
  positive : c.ceiling ≠ 0
  floorLe : c.minBitrate ≤ c.ceiling
  inRange : c.InRange
  bbr : c.mode = .bbr → c.st = .steady

/-! ## What the invariant depends on -/

theorem mode_of_settings {c c' : BitrateController} (h : c'.settings = c.settings) :
    c'.mode = c.mode := by
  have hconf : c'.conf = c.conf := congrArg Settings.conf h
  have hclient : c'.clientMode = c.clientMode := congrArg Settings.clientMode h
  rw [mode, mode, hconf, hclient]

theorem enabled_of_settings {c c' : BitrateController} (h : c'.settings = c.settings) :
    c'.enabled = c.enabled := by
  have hconf : c'.conf = c.conf := congrArg Settings.conf h
  have hclient : c'.clientEnabled = c.clientEnabled := congrArg Settings.clientEnabled h
  rw [enabled, enabled, hconf, hclient]

/-- Steps that leave the core alone keep the invariant. -/
theorem Ranged.of_core {c c' : BitrateController} (h : c.Ranged) (hcore : c'.core = c.core) :
    c'.Ranged := by
  have hsettings := settings_of_core hcore
  have hbitrate : c'.current = c.current := bitrate_of_core hcore
  have hst : c'.st = c.st := congrArg Core.st hcore
  have htarget : c'.recoveryTarget = c.recoveryTarget := congrArg Core.recoveryTarget hcore
  have hceiling : c'.ceiling = c.ceiling := congrArg Settings.ceiling hsettings
  have hfloor : c'.minBitrate = c.minBitrate := congrArg Settings.minBitrate hsettings
  have hmode := mode_of_settings hsettings
  have henabled := enabled_of_settings hsettings
  refine ⟨?_, ?_, ⟨?_, ?_, ?_, ?_⟩, ?_⟩
  · rw [hceiling]
    exact h.positive
  · rw [hfloor, hceiling]
    exact h.floorLe
  · rw [hfloor, hbitrate]
    exact h.inRange.floor
  · rw [hbitrate, hceiling]
    exact h.inRange.ceiling
  · rw [henabled, hbitrate, hceiling]
    exact h.inRange.off
  · rw [hst, hbitrate, htarget, hceiling]
    exact h.inRange.recovering
  · rw [hmode, hst]
    exact h.bbr

/-- A decision keeps the invariant when its bitrate is in the range and a rebound, under
v1, has somewhere to go. -/
theorem Ranged.decided {c c' : BitrateController} (h : c.Ranged) (hon : c.enabled = true)
    (hsettings : c'.settings = c.settings)
    (hbitrate : c.minBitrate ≤ c'.bitrate ∧ c'.bitrate ≤ c.ceiling)
    (hst : c'.st = .recovering →
      c.mode = .aimd ∧ c'.bitrate < c'.recoveryTarget ∧ c'.recoveryTarget ≤ c.ceiling) :
    c'.Ranged := by
  have hceiling : c'.ceiling = c.ceiling := congrArg Settings.ceiling hsettings
  have hfloor : c'.minBitrate = c.minBitrate := congrArg Settings.minBitrate hsettings
  have hmode := mode_of_settings hsettings
  have henabled := enabled_of_settings hsettings
  refine ⟨?_, ?_, ⟨?_, ?_, ?_, ?_⟩, ?_⟩
  · rw [hceiling]
    exact h.positive
  · rw [hfloor, hceiling]
    exact h.floorLe
  · rw [hfloor]
    exact hbitrate.1
  · rw [hceiling]
    exact hbitrate.2
  · intro hoff
    rw [henabled, hon] at hoff
    cases hoff
  · intro hrecovering
    rw [hceiling]
    exact (hst hrecovering).2
  · intro hbbr
    cases hc : c'.st with
    | steady => rfl
    | recovering =>
      rw [hmode, (hst hc).1] at hbbr
      cases hbbr

/-- A decision of a law that is not rebounding. -/
theorem Ranged.steady {c c' : BitrateController} (h : c.Ranged) (hon : c.enabled = true)
    (hsettings : c'.settings = c.settings)
    (hbitrate : c.minBitrate ≤ c'.bitrate ∧ c'.bitrate ≤ c.ceiling) (hst : c'.st = .steady) :
    c'.Ranged :=
  h.decided hon hsettings hbitrate fun hrecovering => by
    rw [hst] at hrecovering
    cases hrecovering

/-- `std::clamp`, with the floor below the ceiling. -/
theorem clamp_mem {c : BitrateController} (h : c.minBitrate ≤ c.ceiling) (value : ℕ) :
    c.minBitrate ≤ c.clamp value ∧ c.clamp value ≤ c.ceiling := by
  unfold clamp
  split
  · exact ⟨le_rfl, h⟩
  · split <;> constructor <;> omega

@[simp] theorem report_fst (previous : ℕ) (c : BitrateController) :
    (report previous c).1 = c := by
  unfold report
  split <;> rfl

/-! ## v1 -/

/-- Whichever way it drops, the bitrate is clamped, and a rebound aims no higher than
the ceiling. -/
theorem drop_spec {c : BitrateController} (severe : Bool) (hbitrate : c.bitrate ≤ c.ceiling)
    (htarget : c.st = .recovering → c.recoveryTarget ≤ c.ceiling) :
    (∃ value, (c.drop severe).bitrate = c.clamp value) ∧
      ((c.drop severe).st = .recovering → (c.drop severe).recoveryTarget ≤ c.ceiling) := by
  unfold drop
  split
  · refine ⟨⟨_, rfl⟩, fun _ => ?_⟩
    dsimp only
    split
    · exact hbitrate
    · exact htarget (not_not.mp ‹_›)
  · exact ⟨⟨_, rfl⟩, htarget⟩

/-- A drop that found nothing to rebound to is over. -/
theorem settle_spec (c : BitrateController) :
    c.settle.bitrate = c.bitrate ∧ c.settle.recoveryTarget = c.recoveryTarget ∧
      (c.settle.st = .recovering → c.st = .recovering ∧ c.bitrate < c.recoveryTarget) := by
  unfold settle
  split
  · exact ⟨rfl, rfl, fun h => by cases h⟩
  · rename_i hrebound
    exact ⟨rfl, rfl, fun h => ⟨h, not_le.mp fun hle => hrebound ⟨h, hle⟩⟩⟩

theorem lowerTarget_spec {c : BitrateController} (h : c.minBitrate ≤ c.ceiling) :
    c.lowerTarget.bitrate = c.bitrate ∧
      (c.lowerTarget.st = .recovering → c.lowerTarget.recoveryTarget ≤ c.ceiling) := by
  unfold lowerTarget
  split
  · exact ⟨rfl, fun _ => (clamp_mem h _).2⟩
  · rename_i hsteady
    exact ⟨rfl, fun hst => absurd hst hsteady⟩

theorem aimdDecrease_ranged {c : BitrateController} (h : c.Ranged) (hon : c.enabled = true)
    (hmode : c.mode = .aimd) (severe : Bool) (now : ℤ) : (c.aimdDecrease severe now).Ranged := by
  have hsettings := aimdDecrease_settings c severe now
  have hkept : ({ c with lastDecrease := now } : BitrateController).lowerTarget.settings =
      c.settings := lowerTarget_settings _
  rcases lowerTarget_spec (c := { c with lastDecrease := now }) h.floorLe with
    ⟨hlowered, htarget⟩
  unfold aimdDecrease at hsettings ⊢
  generalize ({ c with lastDecrease := now } : BitrateController).lowerTarget = low at *
  have hceiling : low.ceiling = c.ceiling := congrArg Settings.ceiling hkept
  have hfloor : low.minBitrate = c.minBitrate := congrArg Settings.minBitrate hkept
  have hclamp := clamp_mem (c := low) (by rw [hfloor, hceiling]; exact h.floorLe)
  rw [hfloor, hceiling] at hclamp
  rcases drop_spec (c := low) severe (by rw [hlowered, hceiling]; exact h.inRange.ceiling)
    (by rw [hceiling]; exact htarget) with ⟨⟨value, hdropped⟩, hrebound⟩
  rcases settle_spec (low.drop severe) with ⟨hbitrate, htarget', hsettled⟩
  refine h.decided hon hsettings ?_ fun hst => ?_
  · show c.minBitrate ≤ (low.drop severe).settle.bitrate ∧ _ ≤ c.ceiling
    rw [flush_bitrate, hbitrate, hdropped]
    exact hclamp value
  · rcases hsettled hst with ⟨hrecovering, hbelow⟩
    have hle := hrebound hrecovering
    rw [hceiling] at hle
    refine ⟨hmode, ?_, ?_⟩
    · show (low.drop severe).settle.bitrate < (low.drop severe).settle.recoveryTarget
      rw [hbitrate, htarget']
      exact hbelow
    · show (low.drop severe).settle.recoveryTarget ≤ c.ceiling
      rw [htarget']
      exact hle

/-- A rebound step stops at its target, which ends the rebound. -/
theorem aimdRebound_ranged {c : BitrateController} (h : c.Ranged) (hon : c.enabled = true)
    (hst : c.st = .recovering) : c.aimdRebound.Ranged := by
  have hmode : c.mode = .aimd := by
    cases hm : c.mode with
    | aimd => rfl
    | bbr =>
      rw [h.bbr hm] at hst
      cases hst
  rcases h.inRange.recovering hst with ⟨hbelow, hle⟩
  rcases clamp_mem h.floorLe (trunc (c.bitrate * recoveryFactor)) with ⟨hfloor, hceiling⟩
  have hcurrent : c.minBitrate ≤ c.bitrate := h.inRange.floor
  have hbelow' : c.bitrate < c.recoveryTarget := hbelow
  refine h.decided hon rfl ⟨?_, ?_⟩ fun hrecovering => ⟨hmode, ?_, hle⟩
  · simp only [aimdRebound, flush_bitrate]
    omega
  · simp only [aimdRebound, flush_bitrate]
    omega
  · -- Still rebounding: the step ended below the target
    simp only [aimdRebound, flush] at hrecovering ⊢
    split at hrecovering
    · cases hrecovering
    · omega

theorem evaluateAimd_ranged {c : BitrateController} (h : c.Ranged) (hon : c.enabled = true)
    (hmode : c.mode = .aimd) (now : ℤ) (s : Stats) : (c.evaluateAimd now s).1.Ranged := by
  have hsince : ∀ since, ({ c with healthySince := since } : BitrateController).Ranged :=
    fun since => h.of_core rfl
  have houtcome := evaluateAimd_outcome c now s
  generalize c.evaluateAimd now s = r at *
  cases houtcome with
  | waits since => exact hsince since
  | decreases =>
    rw [report_fst]
    exact aimdDecrease_ranged (hsince none) hon hmode _ now
  | rebounds hst =>
    rw [report_fst]
    exact aimdRebound_ranged (hsince _) hon hst
  | increases hst =>
    rw [report_fst]
    exact h.steady hon rfl (clamp_mem h.floorLe _) hst

/-! ## v2 -/

theorem bbrUnmeasured_ranged {c : BitrateController} (h : c.Ranged) (hon : c.enabled = true)
    (hst : c.st = .steady) (now : ℤ) (s : Stats) : (c.bbrUnmeasured now s).1.Ranged := by
  simp only [bbrUnmeasured]
  split
  · exact h.of_core rfl
  · split
    · exact h.of_core rfl
    · rw [report_fst]
      exact h.steady hon rfl (clamp_mem h.floorLe _) hst

theorem bbrFollow_ranged {c : BitrateController} (h : c.Ranged) (hon : c.enabled = true)
    (hst : c.st = .steady) (now : ℤ) : (c.bbrFollow now).1.Ranged := by
  have hcore := (bbrStep_core (c.bbrRadio now) now).trans (bbrRadio_core c now)
  have hstep : ((c.bbrRadio now).bbrStep now).1.Ranged := h.of_core hcore
  have hst' : ((c.bbrRadio now).bbrStep now).1.st = .steady := by
    rw [show ((c.bbrRadio now).bbrStep now).1.st = c.st from congrArg Core.st hcore, hst]
  have hon' : ((c.bbrRadio now).bbrStep now).1.enabled = true := by
    rw [enabled_of_settings (settings_of_core hcore), hon]
  simp only [bbrFollow]
  split
  · exact hstep
  · rw [report_fst]
    split
    · exact hstep.steady hon' rfl (clamp_mem hstep.floorLe _) hst'
    · exact hstep.steady hon' rfl (clamp_mem hstep.floorLe _) hst'

theorem evaluateBbr_ranged {c : BitrateController} (h : c.Ranged) (hon : c.enabled = true)
    (hst : c.st = .steady) (now : ℤ) (s : Stats) : (c.evaluateBbr now s).1.Ranged := by
  have hdrop := dropStaleEstimate_core c now
  have hkept : ∀ {c' : BitrateController}, c'.core = c.core →
      c'.Ranged ∧ c'.enabled = true ∧ c'.st = .steady := by
    intro c' hcore
    refine ⟨h.of_core hcore, ?_, (congrArg Core.st hcore).trans hst⟩
    rw [enabled_of_settings (settings_of_core hcore), hon]
  simp only [evaluateBbr]
  split
  · exact h
  · split
    · rcases hkept hdrop with ⟨hranged, henabled, hsteady⟩
      exact bbrUnmeasured_ranged hranged henabled hsteady now s
    · rcases hkept ((seedEstimate_core (c.dropStaleEstimate now) now).trans hdrop) with
        ⟨hranged, henabled, hsteady⟩
      split
      · split
        · exact hranged
        · rw [report_fst]
          exact hranged.steady henabled rfl (clamp_mem hranged.floorLe _) hsteady
      · exact bbrFollow_ranged hranged henabled hsteady now

/-! ## The operations -/

theorem evaluate_ranged {c : BitrateController} (h : c.Ranged) (hon : c.enabled = true)
    (now : ℤ) : (c.evaluate now).1.Ranged := by
  simp only [evaluate]
  split
  · exact h
  · have hcore : (({ c with lastEvaluation := now } : BitrateController).releaseStaleHold
        now).core = c.core := releaseStaleHold_core _ now
    have hranged := h.of_core hcore
    have hon' := (enabled_of_settings (settings_of_core hcore)).trans hon
    generalize ({ c with lastEvaluation := now } : BitrateController).releaseStaleHold now = c'
      at *
    have hpruned : (c'.pruneWindow now).Ranged := hranged.of_core rfl
    split
    · exact hpruned
    · split
      · rename_i hmode
        exact evaluateBbr_ranged hpruned hon' (hpruned.bbr hmode) now _
      · rename_i hmode
        exact evaluateAimd_ranged hpruned hon' hmode now _

theorem onFeedback_ranged {c : BitrateController} (h : c.Ranged) (feedback : Feedback)
    (periodNs : ℤ) (streaming : Bool) (now : ℤ) :
    (c.onFeedback feedback periodNs streaming now).1.Ranged := by
  simp only [onFeedback]
  split
  · exact h
  · rename_i hguard
    split
    · exact h
    · split
      · exact h.of_core rfl
      · rename_i c' htrack
        have htracked := trackFrame_core htrack
        have hcore : c'.core = c.core := htracked
        have hon : c'.enabled = true := by
          rw [enabled_of_settings (settings_of_core hcore)]
          simpa using not_or.mp hguard |>.1
        have hjoined : ∀ i f, (c'.setFrame i f).Ranged := fun i f => (h.of_core hcore).of_core rfl
        exact evaluate_ranged (hjoined _ _) hon now

/-- The preemptive step is clamped, and never taken while v1 rebounds. -/
theorem radioStep_ranged {c : BitrateController} (h : c.Ranged) (hon : c.enabled = true)
    (hst : c.st = .steady) (when' : ℤ) : (c.radioStep when').Ranged := by
  have hrange : c.minBitrate ≤ c.bitrate ∧ c.bitrate ≤ c.ceiling :=
    ⟨h.inRange.floor, h.inRange.ceiling⟩
  have hdecrease : (c.minBitrate ≤ (c.radioDecrease when').bitrate ∧
      (c.radioDecrease when').bitrate ≤ c.ceiling) ∧ (c.radioDecrease when').st = c.st := by
    simp only [radioDecrease]
    split
    · split
      · exact ⟨clamp_mem h.floorLe _, rfl⟩
      · exact ⟨hrange, rfl⟩
    · exact ⟨clamp_mem h.floorLe _, rfl⟩
  exact h.steady hon (radioStep_settings c when') hdecrease.1 (hdecrease.2.trans hst)

theorem onWifiState_ranged {c : BitrateController} (h : c.Ranged)
    (rssiDbm linkSpeedMbps when' : ℤ) :
    (c.onWifiState rssiDbm linkSpeedMbps when').1.Ranged := by
  have hcore := addRadioSample_core c rssiDbm linkSpeedMbps when'
  have houtcome := onWifiState_outcome c rssiDbm linkSpeedMbps when'
  generalize c.addRadioSample rssiDbm linkSpeedMbps when' = c₁ at *
  have hranged := h.of_core hcore
  have hholds := releaseHolds_core c₁ c₁.radioTrend when'
  have hreleased := hranged.of_core hholds
  generalize c.onWifiState rssiDbm linkSpeedMbps when' = r at *
  cases houtcome with
  | ignored => exact h
  | joined => exact hranged
  | held => exact hreleased
  | stepped hrebound hon =>
    have hon₂ := (enabled_of_settings (settings_of_core (hholds.trans hcore))).trans hon
    have hst : ((c₁.releaseRisingHold c₁.radioTrend).releaseStableHold c₁.radioTrend
        when').st = c₁.st := congrArg Core.st hholds
    -- Under v1 the rebound was ruled out; v2 has none
    have hsteady : c₁.st = .steady := by
      cases hc : c₁.st with
      | steady => rfl
      | recovering =>
        cases hm : c₁.mode with
        | aimd => exact absurd ⟨hm, hc⟩ hrebound
        | bbr =>
          rw [hranged.bbr hm] at hc
          cases hc
    rw [hsteady] at hst
    rw [report_fst]
    have hstep := radioStep_ranged hreleased hon₂ hst when'
    split
    · exact hstep
    · exact hstep.of_core rfl

/-- Back at the ceiling, everything holds. -/
theorem reset_ranged {c : BitrateController} (hpositive : c.ceiling ≠ 0)
    (hfloor : c.minBitrate ≤ c.ceiling) : c.reset.1.Ranged := by
  simp only [reset, if_neg hpositive]
  exact ⟨hpositive, hfloor, ⟨hfloor, le_rfl, fun _ => rfl, fun h => by cases h⟩, fun _ => rfl⟩

theorem act_ranged {c : BitrateController} (h : c.Ranged) (op : Op) : (c.act op).1.Ranged := by
  cases op with
  | onFeedback feedback periodNs streaming now =>
    exact onFeedback_ranged h feedback periodNs streaming now
  | onWifiState rssiDbm linkSpeedMbps when' =>
    exact onWifiState_ranged h rssiDbm linkSpeedMbps when'
  | onFrameBytes frameIndex streamIndex bytes now =>
    exact h.of_core (onFrameBytes_core c frameIndex streamIndex bytes now)
  | setClientEnabled enabled =>
    simp only [act, setClientEnabled]
    split
    · exact h
    · exact reset_ranged h.positive h.floorLe
  | setClientMode m =>
    simp only [act, setClientMode]
    split
    · exact h
    · split
      · rename_i hmode
        refine ⟨h.positive, h.floorLe, ⟨h.inRange.floor, h.inRange.ceiling, h.inRange.off,
          h.inRange.recovering⟩, ?_⟩
        rw [← hmode]
        exact h.bbr
      · exact reset_ranged h.positive h.floorLe
  | setRadioAware enabled =>
    simp only [act, setRadioAware]
    split
    · exact h
    · exact ⟨h.positive, h.floorLe, ⟨h.inRange.floor, h.inRange.ceiling, h.inRange.off,
        h.inRange.recovering⟩, h.bbr⟩
  | setPacingWindow window => exact h.of_core rfl
  | setCeiling ceilingBps =>
    simp only [act, setCeiling]
    split
    · exact h
    · rename_i hchanged
      exact reset_ranged (fun hzero => hchanged (.inl hzero)) (min_le_right _ _)
  | reset => exact reset_ranged h.positive h.floorLe

theorem configure_ranged (c : BitrateController) (conf : Config) {ceilingBps : ℕ}
    (h : 0 < ceilingBps) (clientEnabled radioAware : Bool) (clientMode : Option BitrateMode) :
    (c.configure conf ceilingBps clientEnabled radioAware clientMode).Ranged := by
  have hpositive : ceilingBps ≠ 0 := h.ne'
  have hfloor : min conf.minBitrateBps (if ceilingBps ≠ 0 then ceilingBps else conf.minBitrateBps)
      ≤ ceilingBps := by
    rw [if_pos hpositive]
    exact min_le_right _ _
  exact ⟨hpositive, hfloor, ⟨hfloor, le_rfl, fun _ => rfl, fun h => by cases h⟩, fun _ => rfl⟩

/-! ## What the operations return -/

theorem Decides.answers {c : BitrateController} {r : BitrateController × Option ℕ}
    (h : Decides c r) : Answers c r := by
  refine ⟨fun v hv => ?_, fun hnone => ?_⟩
  · rw [current, h.reports, hv]
    rfl
  · rw [current, h.reports, hnone]
    rfl

theorem answers_none {c c' : BitrateController} (h : c'.bitrate = c.bitrate) :
    Answers c (c', none) :=
  ⟨fun _ hv => (Option.some_ne_none _ hv.symm).elim, fun _ => h⟩

theorem reset_answers {c c' : BitrateController} (h : c'.ceiling ≠ 0) : Answers c c'.reset := by
  rcases reset_eq h with ⟨hsome, hbitrate, -⟩
  refine ⟨fun v hv => ?_, fun hnone => ?_⟩
  · rw [hsome] at hv
    cases hv
    exact hbitrate.symm
  · rw [hsome] at hnone
    cases hnone

theorem act_answers {c : BitrateController} (h : c.ceiling ≠ 0) (op : Op) :
    Answers c (c.act op) := by
  cases op with
  | onFeedback feedback periodNs streaming now => exact (onFeedback_decides _ _ _ _ _).answers
  | onWifiState rssiDbm linkSpeedMbps when' => exact (onWifiState_decides _ _ _ _).answers
  | onFrameBytes frameIndex streamIndex bytes now =>
    exact answers_none (bitrate_of_core (onFrameBytes_core _ _ _ _ _))
  | setClientEnabled enabled =>
    simp only [act, setClientEnabled]
    split
    · exact answers_none rfl
    · exact reset_answers h
  | setClientMode m =>
    simp only [act, setClientMode]
    split
    · exact answers_none rfl
    · split
      · exact answers_none rfl
      · exact reset_answers h
  | setRadioAware enabled =>
    simp only [act, setRadioAware]
    split <;> exact answers_none rfl
  | setPacingWindow window => exact answers_none rfl
  | setCeiling ceilingBps =>
    simp only [act, setCeiling]
    split
    · exact answers_none rfl
    · rename_i hchanged
      exact reset_answers fun hzero => hchanged (.inl hzero)
  | reset => exact reset_answers h

/-! ## Runs -/

theorem run_ranged {c : BitrateController} (h : c.Ranged) (ops : List Op) : (c.run ops).Ranged := by
  induction ops generalizing c with
  | nil => exact h
  | cons op ops ih => exact ih (act_ranged h op)

/-- After `configure` the bitrate stays in its range whatever is called, and every call
answers with the bitrate it leaves. -/
theorem range_invariant (c : BitrateController) (conf : Config) {ceilingBps : ℕ}
    (h : 0 < ceilingBps) (clientEnabled radioAware : Bool) (clientMode : Option BitrateMode)
    (ops : List Op) :
    let c' := (c.configure conf ceilingBps clientEnabled radioAware clientMode).run ops
    c'.InRange ∧ ∀ op, Answers c' (c'.act op) := by
  have hranged := run_ranged (configure_ranged c conf h clientEnabled radioAware clientMode) ops
  exact ⟨hranged.inRange, act_answers hranged.positive⟩

/-- A first report on a controller that was given 50 Mbit/s. -/
theorem range_invariant_one_report :
    let c' := (({} : BitrateController).configure {} 50000000 true true none).run
      [.onWifiState (-70) 400 1000000, .setCeiling 30000000]
    c'.InRange ∧ ∀ op, Answers c' (c'.act op) :=
  range_invariant {} {} (by decide) true true none _

end WivrnNx.BitrateController
