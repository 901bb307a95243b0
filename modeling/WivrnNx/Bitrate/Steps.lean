import WivrnNx.Bitrate.Stale

/-!
# The step discipline of v1

A decrease waits for the cooldown that the feedback and the radio share, a raise for a
link that has been healthy since the last change. What follows for a whole run under v1:

- `Moves`: what one operation may do to the bitrate, the rebound and the two timers;
- `onFeedback_moves`, `onWifiState_moves`: both callers keep to it;
- `Disciplined`: any two decreases are two seconds apart and any two raises one, a
  rebound stays below the bitrate before its drop and its target only ever falls;
- `step_discipline`: every run under v1 is disciplined.
-/

namespace WivrnNx.BitrateController

/-! ## What the parts leave alone -/

/-- The window, the estimate and the frames are all that may differ. -/
def FramesOnly (c c' : BitrateController) : Prop :=
  c' = { c with
    window := c'.window, bandwidth := c'.bandwidth, bandwidthSamples := c'.bandwidthSamples,
    lastBandwidthSample := c'.lastBandwidthSample, frames := c'.frames,
    newestFrame := c'.newestFrame, hasFrames := c'.hasFrames, framePeriod := c'.framePeriod }

theorem FramesOnly.trans {c c' c'' : BitrateController} (h : FramesOnly c c')
    (h' : FramesOnly c' c'') : FramesOnly c c'' := by
  unfold FramesOnly at h h' ⊢
  refine h'.trans ?_
  rw [h]

theorem closeFrame_framesOnly (c : BitrateController) (i : Fin frameRingSize) (now : ℤ) :
    FramesOnly c (c.closeFrame i now) := by
  rcases c.closeFrame_cases i now with
    ⟨-, hkept⟩ | ⟨-, bandwidth, samples, last, window, hclosed, -⟩
  · rw [hkept]
    rfl
  · rw [hclosed]
    rfl

theorem trackFrame_framesOnly {c c' : BitrateController} {frameIndex : ℕ} {now : ℤ}
    (h : c.trackFrame frameIndex now = some c') : FramesOnly c c' := by
  have hnoted : FramesOnly c (c.noteNewest frameIndex) := by
    unfold noteNewest
    split <;> rfl
  unfold trackFrame at h
  split at h
  · cases h
  · cases h
    apply hnoted.trans
    unfold claimSlot
    split
    · rfl
    · exact (closeFrame_framesOnly _ (slot frameIndex) now).trans rfl

theorem evaluated_framesOnly {c c₀ : BitrateController} {feedback : Feedback} {periodNs : ℤ}
    {streaming : Bool} {now : ℤ} (h : c.evaluated feedback periodNs streaming now = some c₀) :
    FramesOnly c c₀ := by
  unfold evaluated at h
  split at h
  · cases h
  · split at h
    · cases h
    · rcases Option.map_eq_some_iff.mp h with ⟨c', htrack, hjoined⟩
      rw [← hjoined]
      have htracked := trackFrame_framesOnly htrack
      have hperiod : FramesOnly c { c with framePeriod := periodNs } := rfl
      exact (hperiod.trans htracked).trans rfl

/-- The radio trend and its hold are all that may differ. -/
def RadioOnly (c c' : BitrateController) : Prop :=
  c' = { c with
    radioWindow := c'.radioWindow, radioEma := c'.radioEma, lastRadioSample := c'.lastRadioSample,
    radioHold := c'.radioHold, radioStableSince := c'.radioStableSince }

theorem RadioOnly.trans {c c' c'' : BitrateController} (h : RadioOnly c c')
    (h' : RadioOnly c' c'') : RadioOnly c c'' := by
  unfold RadioOnly at h h' ⊢
  refine h'.trans ?_
  rw [h]

theorem addRadioSample_radioOnly (c : BitrateController) (rssiDbm linkSpeedMbps when' : ℤ) :
    RadioOnly c (c.addRadioSample rssiDbm linkSpeedMbps when') := by
  unfold addRadioSample
  dsimp only
  split <;> rfl

theorem releaseHolds_radioOnly (c : BitrateController) (t : RadioTrend) (when' : ℤ) :
    RadioOnly c ((c.releaseRisingHold t).releaseStableHold t when') := by
  have hrising : RadioOnly c (c.releaseRisingHold t) := by
    unfold releaseRisingHold
    split <;> rfl
  apply hrising.trans
  unfold releaseStableHold
  split
  · split
    · rfl
    · split <;> rfl
  · rfl

/-! ## One operation -/

/-- What a decision of v1 reads and moves. -/
structure Pace where
  bitrate : ℕ
  st : AimdState
  recoveryTarget : ℕ
  healthySince : Option ℤ
  lastDecrease : ℤ
deriving DecidableEq, Repr

def pace (c : BitrateController) : Pace :=
  ⟨c.bitrate, c.st, c.recoveryTarget, c.healthySince, c.lastDecrease⟩

theorem FramesOnly.pace {c c' : BitrateController} (h : FramesOnly c c') : c'.pace = c.pace := by
  rw [h]
  rfl

theorem RadioOnly.pace {c c' : BitrateController} (h : RadioOnly c c') : c'.pace = c.pace := by
  rw [h]
  rfl

/-- What one operation at a time may do. -/
structure Moves (p : Pace) (now : ℤ) (p' : Pace) : Prop where
  since : ∀ t, p'.healthySince = some t → p.healthySince = some t ∨ t = now
  decreased : p'.lastDecrease = p.lastDecrease ∨
    p'.lastDecrease = now ∧ decreaseCooldown ≤ now - p.lastDecrease
  lower : p'.bitrate < p.bitrate →
    p'.lastDecrease = now ∧ decreaseCooldown ≤ now - p.lastDecrease
  raise : p.bitrate < p'.bitrate → p'.healthySince = none ∧
    ∃ t, p.healthySince = some t ∧ recoveryStepInterval ≤ now - t
  below : p.st = .recovering → p.bitrate < p'.bitrate → p'.bitrate ≤ p.recoveryTarget
  target : p.st = .recovering → p'.recoveryTarget ≤ p.recoveryTarget
  starts : p.st = .steady → p'.st = .recovering → p'.recoveryTarget ≤ p.bitrate

theorem Moves.refl (p : Pace) (now : ℤ) : Moves p now p := by
  constructor
  · exact fun _ h => .inl h
  · exact .inl rfl
  · intro hlower
    omega
  · intro hraise
    omega
  · intro _ hraise
    omega
  · exact fun _ => le_rfl
  · intro hsteady hrecovering
    rw [hsteady] at hrecovering
    cases hrecovering

/-- Before the decision the link may be seen healthy for the first time, or not to be
healthy any more. -/
theorem Moves.after {p q p' : Pace} {now : ℤ} (h : Moves q now p')
    (hrest : { q with healthySince := p.healthySince } = p)
    (hsince : ∀ t, q.healthySince = some t → p.healthySince = some t ∨ t = now) :
    Moves p now p' := by
  have hbitrate : q.bitrate = p.bitrate := (congrArg Pace.bitrate hrest :)
  have hst : q.st = p.st := (congrArg Pace.st hrest :)
  have htarget : q.recoveryTarget = p.recoveryTarget := (congrArg Pace.recoveryTarget hrest :)
  have hdecrease : q.lastDecrease = p.lastDecrease := (congrArg Pace.lastDecrease hrest :)
  constructor
  · intro t ht
    rcases h.since t ht with hsame | hnow
    · exact hsince t hsame
    · exact .inr hnow
  · rw [← hdecrease]
    exact h.decreased
  · rw [← hdecrease, ← hbitrate]
    exact h.lower
  · rw [← hbitrate]
    intro hraise
    rcases h.raise hraise with ⟨hnone, t, ht, hheld⟩
    refine ⟨hnone, t, (hsince t ht).resolve_right fun hnow => ?_, hheld⟩
    -- A link seen healthy only now has not been for long
    rw [hnow, sub_self] at hheld
    exact absurd hheld (by decide)
  · rw [← hst, ← hbitrate, ← htarget]
    exact h.below
  · rw [← hst, ← htarget]
    exact h.target
  · rw [← hst, ← hbitrate]
    exact h.starts

/-! ## v1 -/

theorem settle_pace (c : BitrateController) :
    c.settle.healthySince = c.healthySince ∧ c.settle.lastDecrease = c.lastDecrease := by
  unfold settle
  split <;> exact ⟨rfl, rfl⟩

/-- Behind a drop the rebound aims at the bitrate before it, or below what it aimed at
already. -/
theorem drop_target {c : BitrateController} (severe : Bool) :
    (c.st = .recovering → (c.drop severe).recoveryTarget = c.recoveryTarget) ∧
      (c.st = .steady → (c.drop severe).st = .recovering →
        (c.drop severe).recoveryTarget = c.bitrate) ∧
      (c.drop severe).lastDecrease = c.lastDecrease := by
  unfold drop
  split
  · refine ⟨fun hst => if_neg (not_not.mpr hst), fun hst _ => if_pos ?_, rfl⟩
    rw [hst]
    decide
  · refine ⟨fun _ => rfl, fun hst hrecovering => ?_, rfl⟩
    have hst' : c.st = .recovering := hrecovering
    rw [hst] at hst'
    cases hst'

theorem lowerTarget_pace {c : BitrateController}
    (hfloor : c.st = .recovering → c.minBitrate ≤ c.recoveryTarget) :
    c.lowerTarget.st = c.st ∧ c.lowerTarget.bitrate = c.bitrate ∧
      c.lowerTarget.lastDecrease = c.lastDecrease ∧
      c.lowerTarget.recoveryTarget ≤ c.recoveryTarget := by
  unfold lowerTarget
  split
  · rename_i hst
    refine ⟨rfl, rfl, rfl, ?_⟩
    exact clamp_scaled_le (hfloor hst) (by norm_num [recoveryTargetBackoff])
  · exact ⟨rfl, rfl, rfl, le_rfl⟩

theorem aimdDecrease_moves {c : BitrateController} (h : c.Ranged) (severe : Bool) {now : ℤ}
    (hcooled : decreaseCooldown ≤ now - c.lastDecrease) :
    Moves c.pace now (c.aimdDecrease severe now).pace := by
  have hfloor : c.minBitrate ≤ c.bitrate := h.inRange.floor
  have hle := aimdDecrease_le hfloor severe now
  have hbelow : c.st = .recovering → c.minBitrate ≤ c.recoveryTarget := by
    intro hst
    exact hfloor.trans (h.inRange.recovering hst).1.le
  rcases lowerTarget_pace (c := { c with lastDecrease := now }) hbelow with
    ⟨hst, hbitrate, hdecrease, htarget⟩
  unfold aimdDecrease at hle ⊢
  generalize ({ c with lastDecrease := now } : BitrateController).lowerTarget = low at *
  rcases drop_target (c := low) severe with ⟨hkept, hstarts, hdropped⟩
  rcases settle_spec (low.drop severe) with ⟨-, hsettled, hstill⟩
  have hlast : (low.drop severe).settle.lastDecrease = now :=
    (settle_pace _).2.trans (hdropped.trans hdecrease)
  constructor
  · intro t ht
    cases ht
  · exact .inr ⟨hlast, hcooled⟩
  · exact fun _ => ⟨hlast, hcooled⟩
  · intro hraise
    exact absurd hraise (not_lt.mpr hle)
  · intro _ hraise
    exact absurd hraise (not_lt.mpr hle)
  · intro hrecovering
    have hst' : low.st = .recovering := hst.trans hrecovering
    show (low.drop severe).settle.recoveryTarget ≤ c.recoveryTarget
    rw [hsettled, hkept hst']
    exact htarget
  · intro hsteady hrecovering
    have hst' : low.st = .steady := hst.trans hsteady
    show (low.drop severe).settle.recoveryTarget ≤ c.bitrate
    rw [hsettled, hstarts hst' (hstill hrecovering).1]
    exact hbitrate.le

theorem le_trunc {n : ℕ} {x : ℚ} (h : (n : ℚ) ≤ x) : n ≤ trunc x := by
  have hfloor : (n : ℤ) ≤ ⌊x⌋ := Int.le_floor.mpr (by exact_mod_cast h)
  unfold trunc
  omega

/-- A clamp keeps a raise one, under the ceiling. -/
theorem le_clamp {c : BitrateController} {n value : ℕ} (hceiling : n ≤ c.ceiling)
    (h : n ≤ value) : n ≤ c.clamp value := by
  unfold clamp
  split
  · omega
  · split <;> omega

/-- A rebound step ends between where it starts and its target. -/
theorem aimdRebound_between {c : BitrateController} (h : c.Ranged) (hst : c.st = .recovering) :
    c.bitrate ≤ c.aimdRebound.bitrate ∧ c.aimdRebound.bitrate ≤ c.recoveryTarget := by
  have hbelow : c.bitrate < c.recoveryTarget := (h.inRange.recovering hst).1
  refine ⟨?_, min_le_left _ _⟩
  show c.bitrate ≤ min c.recoveryTarget (c.clamp (trunc (c.bitrate * recoveryFactor)))
  apply le_min hbelow.le
  apply le_clamp h.inRange.ceiling
  apply le_trunc
  exact le_mul_of_one_le_right (Nat.cast_nonneg _) (by norm_num [recoveryFactor])

/-- `std::optional`: the link has been healthy since then, or is from now on. -/
theorem since_of_held {healthySince : Option ℤ} {now hold : ℤ} (hpositive : 0 < hold)
    (hheld : hold ≤ now - healthySince.getD now) :
    ∃ t, healthySince = some t ∧ hold ≤ now - t := by
  cases healthySince with
  | none =>
    have hnow : hold ≤ now - now := hheld
    omega
  | some t => exact ⟨t, rfl, hheld⟩

/-- A raise, once the link has been healthy for long. -/
theorem Moves.raised {p p' : Pace} {now : ℤ} (hup : p.bitrate ≤ p'.bitrate)
    (hforgotten : p'.healthySince = none) (hlast : p'.lastDecrease = p.lastDecrease)
    (hheld : ∃ t, p.healthySince = some t ∧ recoveryStepInterval ≤ now - t)
    (hsteady : p.st = .steady → p'.st = .steady)
    (hrecovering : p.st = .recovering →
      p'.bitrate ≤ p.recoveryTarget ∧ p'.recoveryTarget ≤ p.recoveryTarget) :
    Moves p now p' := by
  constructor
  · intro t ht
    rw [hforgotten] at ht
    cases ht
  · exact .inl hlast
  · intro hlower
    exact absurd hlower (not_lt.mpr hup)
  · exact fun _ => ⟨hforgotten, hheld⟩
  · exact fun hst _ => (hrecovering hst).1
  · exact fun hst => (hrecovering hst).2
  · intro hst hstarted
    rw [hsteady hst] at hstarted
    cases hstarted

theorem aimdRebound_moves {c : BitrateController} (h : c.Ranged) (hst : c.st = .recovering)
    {now : ℤ} (hheld : c.reboundHold ≤ now - c.healthySince.getD now) :
    Moves c.pace now c.aimdRebound.pace := by
  rcases aimdRebound_between h hst with ⟨hup, hbelow⟩
  have hhold : recoveryStepInterval ≤ c.reboundHold := by
    unfold reboundHold
    split <;> decide
  have hpositive : 0 < recoveryStepInterval := by decide
  have hheld' := since_of_held hpositive (hhold.trans hheld)
  refine .raised hup rfl rfl hheld' (fun hsteady => ?_) fun _ => ⟨hbelow, le_rfl⟩
  exact absurd (hst.symm.trans hsteady) (by decide)

theorem aimdIncrease_moves {c : BitrateController} (h : c.Ranged) (hst : c.st = .steady)
    {now : ℤ} (hheld : increaseHold ≤ now - c.healthySince.getD now) :
    Moves c.pace now c.aimdIncrease.pace := by
  have hceiling : c.bitrate ≤ c.ceiling := h.inRange.ceiling
  have hup : c.bitrate ≤ c.aimdIncrease.bitrate := le_clamp hceiling (Nat.le_add_right _ _)
  have hhold : recoveryStepInterval ≤ increaseHold := by decide
  have hpositive : 0 < recoveryStepInterval := by decide
  have hheld' := since_of_held hpositive (hhold.trans hheld)
  refine .raised hup rfl rfl hheld' (fun hsteady => hsteady) fun hrecovering => ?_
  exact absurd (hst.symm.trans hrecovering) (by decide)

theorem evaluateAimd_moves {c : BitrateController} (h : c.Ranged) (now : ℤ) (s : Stats) :
    Moves c.pace now (c.evaluateAimd now s).1.pace := by
  have hforgotten : ∀ {p' : Pace}, Moves { c.pace with healthySince := none } now p' →
      Moves c.pace now p' :=
    fun hmoves => hmoves.after rfl fun t ht => by cases ht
  have hseen : ∀ {p' : Pace},
      Moves { c.pace with healthySince := some (c.healthySince.getD now) } now p' →
      Moves c.pace now p' := by
    intro p' hmoves
    refine hmoves.after rfl fun t ht => ?_
    cases ht
    cases hsince : c.healthySince with
    | none => exact .inr rfl
    | some t => exact .inl hsince
  have hsince : ∀ since, ({ c with healthySince := since } : BitrateController).Ranged :=
    fun since => h.of_core rfl
  have houtcome := evaluateAimd_outcome c now s
  generalize c.evaluateAimd now s = r at *
  cases houtcome with
  | waits since hwaits =>
    rcases hwaits with rfl | rfl
    · exact hforgotten (.refl _ now)
    · exact hseen (.refl _ now)
  | decreases _ hcooled =>
    apply hforgotten
    rw [report_fst]
    exact aimdDecrease_moves (hsince none) _ hcooled
  | rebounds hst hheld =>
    apply hseen
    rw [report_fst]
    exact aimdRebound_moves (hsince (some _)) hst hheld
  | increases hst _ hheld =>
    apply hseen
    rw [report_fst]
    exact aimdIncrease_moves (hsince (some _)) hst hheld

/-- The hysteresis band lies between the two. -/
theorem not_degraded_of_healthy {s : Stats} (h : healthy s = true) : degraded s = false := by
  simp only [healthy, Bool.and_eq_true, decide_eq_true_eq, beq_iff_eq] at h
  rcases h with ⟨⟨hutilisation, hlost⟩, hlate⟩
  have hsevere : ¬ utilisationSevere < s.utilisation := by
    unfold utilisationIncrease at hutilisation
    unfold utilisationSevere
    linarith
  have hdecrease : ¬ utilisationDecrease < s.utilisation := by
    unfold utilisationIncrease at hutilisation
    unfold utilisationDecrease
    linarith
  simp [degraded, severe, hsevere, hdecrease, hlost, hlate, lostFramesSevere, lateFramesSevere,
    lostFramesDecrease, lateFramesDecrease]

theorem evaluateAimd_healthy {c : BitrateController} (h : c.Ranged) (now : ℤ) {s : Stats}
    (hhealthy : healthy s = true) : c.bitrate ≤ (c.evaluateAimd now s).1.bitrate := by
  have hceiling : c.bitrate ≤ c.ceiling := h.inRange.ceiling
  have hsince : ({ c with healthySince := some (c.healthySince.getD now) } :
      BitrateController).Ranged := h.of_core rfl
  have houtcome := evaluateAimd_outcome c now s
  generalize c.evaluateAimd now s = r at *
  cases houtcome with
  | waits => exact le_rfl
  | decreases hdegraded =>
    rw [not_degraded_of_healthy hhealthy] at hdegraded
    cases hdegraded
  | rebounds hst =>
    rw [report_fst]
    exact (aimdRebound_between hsince hst).1
  | increases =>
    rw [report_fst]
    exact le_clamp hceiling (Nat.le_add_right _ _)

/-! ## The two callers -/

/-- The window examined, with the hold as it was or let go. -/
def examined (c : BitrateController) (now : ℤ) (hold : Bool) : BitrateController :=
  ({ c with lastEvaluation := now, radioHold := hold }).pruneWindow now

/-- `evaluate` under v1: too early, too few samples, or a decision of `evaluate_aimd`. -/
theorem evaluate_aimd {c : BitrateController} (hmode : c.mode = .aimd) (now : ℤ) :
    c.evaluate now = (c, none) ∨
      ∃ hold, (hold = c.radioHold ∨ hold = false) ∧
        (c.evaluate now = (c.examined now hold, none) ∨
          c.evaluate now = (c.examined now hold).evaluateAimd now (c.analysed now)) := by
  rcases releaseStaleHold_eq { c with lastEvaluation := now } now with ⟨hold, hreleased, hhold⟩
  unfold evaluate
  rw [hreleased]
  dsimp only
  split
  · exact .inl rfl
  · right
    refine ⟨hold, hhold, ?_⟩
    split
    · exact .inl rfl
    · split
      · rename_i hbbr
        have hlaw : c.mode = .bbr := hbbr
        rw [hmode] at hlaw
        cases hlaw
      · exact .inr rfl

theorem examined_ranged {c : BitrateController} (h : c.Ranged) (now : ℤ) (hold : Bool) :
    (c.examined now hold).Ranged := h.of_core rfl

theorem evaluate_moves {c : BitrateController} (h : c.Ranged) (hmode : c.mode = .aimd) (now : ℤ) :
    Moves c.pace now (c.evaluate now).1.pace := by
  rcases evaluate_aimd hmode now with hearly | ⟨hold, -, hfew | hdecided⟩
  · rw [hearly]
    exact .refl _ now
  · rw [hfew]
    exact .refl _ now
  · rw [hdecided]
    exact evaluateAimd_moves (examined_ranged h now hold) now _

/-- A healthy window lowers nothing. -/
theorem evaluate_healthy {c : BitrateController} (h : c.Ranged) (hmode : c.mode = .aimd) (now : ℤ)
    (hhealthy : healthy (c.analysed now) = true) : c.bitrate ≤ (c.evaluate now).1.bitrate := by
  rcases evaluate_aimd hmode now with hearly | ⟨hold, -, hfew | hdecided⟩
  · rw [hearly]
  · rw [hfew]
    exact le_rfl
  · rw [hdecided]
    exact evaluateAimd_healthy (examined_ranged h now hold) now hhealthy

/-- Feedback that is evaluated comes to a controller with a ceiling. -/
theorem evaluated_limited {c c₀ : BitrateController} {feedback : Feedback} {periodNs : ℤ}
    {streaming : Bool} {now : ℤ} (h : c.evaluated feedback periodNs streaming now = some c₀) :
    c.ceiling ≠ 0 := by
  intro hnone
  rw [evaluated, if_pos (.inr (.inr (.inl hnone)))] at h
  cases h

theorem onFeedback_moves {c : BitrateController} (h : c.ceiling = 0 ∨ c.Ranged)
    (hmode : c.mode = .aimd) (feedback : Feedback) (periodNs : ℤ) (streaming : Bool) (now : ℤ) :
    Moves c.pace now (c.onFeedback feedback periodNs streaming now).1.pace := by
  cases hevaluated : c.evaluated feedback periodNs streaming now with
  | none =>
    rcases onFeedback_of_ignored hevaluated with ⟨period, hkept⟩
    rw [hkept]
    exact .refl _ now
  | some c₀ =>
    have hcore := (evaluated_core hevaluated).1
    have hranged := (h.resolve_left (evaluated_limited hevaluated)).of_core hcore
    have hmode₀ := (mode_of_settings (settings_of_core hcore)).trans hmode
    rw [onFeedback_of_evaluated hevaluated, ← (evaluated_framesOnly hevaluated).pace]
    exact evaluate_moves hranged hmode₀ now

/-- The preemptive step of v1 is a decrease like any other. -/
theorem radioStep_moves {c : BitrateController} (h : c.Ranged) (hmode : c.mode = .aimd)
    (hst : c.st = .steady) {when' : ℤ} (hcooled : decreaseCooldown ≤ when' - c.lastDecrease) :
    Moves c.pace when' (c.radioStep when').pace := by
  have hdecrease : c.radioDecrease when' =
      { c with bitrate := c.clamp (trunc (c.bitrate * decreaseFactor)) } := by
    unfold radioDecrease
    rw [if_neg]
    intro hbbr
    rw [hmode] at hbbr
    cases hbbr.1
  have hle : c.clamp (trunc (c.bitrate * decreaseFactor)) ≤ c.bitrate :=
    clamp_scaled_le h.inRange.floor (by norm_num [decreaseFactor])
  unfold radioStep
  rw [hdecrease]
  constructor
  · exact fun _ ht => .inl ht
  · exact .inr ⟨rfl, hcooled⟩
  · exact fun _ => ⟨rfl, hcooled⟩
  · intro hraise
    exact absurd hraise (not_lt.mpr hle)
  · intro _ hraise
    exact absurd hraise (not_lt.mpr hle)
  · exact fun _ => le_rfl
  · intro _ hrecovering
    exact absurd (hst.symm.trans hrecovering) (by decide)

/-- A flush forgets how long the link has been healthy. -/
theorem Moves.flush {p : Pace} {now : ℤ} {c : BitrateController} (h : Moves p now c.pace) :
    Moves p now c.flush.pace := by
  refine ⟨fun t ht => ?_, h.decreased, h.lower, fun hraise => ⟨rfl, (h.raise hraise).2⟩, h.below,
    h.target, h.starts⟩
  cases ht

theorem onWifiState_moves {c : BitrateController} (h : c.ceiling = 0 ∨ c.Ranged)
    (hmode : c.mode = .aimd) (rssiDbm linkSpeedMbps when' : ℤ) :
    Moves c.pace when' (c.onWifiState rssiDbm linkSpeedMbps when').1.pace := by
  have hsample := addRadioSample_radioOnly c rssiDbm linkSpeedMbps when'
  have hcore := addRadioSample_core c rssiDbm linkSpeedMbps when'
  have houtcome := onWifiState_outcome c rssiDbm linkSpeedMbps when'
  generalize c.addRadioSample rssiDbm linkSpeedMbps when' = c₁ at *
  have hholds := releaseHolds_radioOnly c₁ c₁.radioTrend when'
  have hcore₂ := releaseHolds_core c₁ c₁.radioTrend when'
  have hmode₁ := (mode_of_settings (settings_of_core hcore)).trans hmode
  generalize c.onWifiState rssiDbm linkSpeedMbps when' = r at *
  cases houtcome with
  | ignored => exact .refl _ when'
  | joined =>
    rw [← hsample.pace]
    exact .refl _ when'
  | held =>
    rw [← hsample.pace, ← hholds.pace]
    exact .refl _ when'
  | stepped hrebound _ hlimited hcooled =>
    have hsteady : c₁.st = .steady := by
      cases hst : c₁.st with
      | steady => rfl
      | recovering => exact absurd ⟨hmode₁, hst⟩ hrebound
    have hst₂ := (congrArg Core.st hcore₂).trans hsteady
    have hranged₂ := ((h.resolve_left hlimited).of_core hcore).of_core hcore₂
    have hmode₂ := (mode_of_settings (settings_of_core hcore₂)).trans hmode₁
    have hstep := radioStep_moves hranged₂ hmode₂ hst₂ hcooled
    rw [report_fst, ← hsample.pace, ← hholds.pace]
    split
    · exact hstep
    · exact hstep.flush

theorem onFrameBytes_framesOnly (c : BitrateController) (frameIndex streamIndex bytes : ℕ)
    (now : ℤ) : FramesOnly c (c.onFrameBytes frameIndex streamIndex bytes now) := by
  unfold onFrameBytes
  split
  · rfl
  · split
    · rfl
    · split
      · rfl
      · rename_i c' htrack
        exact (trackFrame_framesOnly htrack).trans rfl

/-- Every operation that does not start over keeps to it, under v1. -/
theorem act_moves {c : BitrateController} (h : c.ceiling = 0 ∨ c.Ranged) (hmode : c.mode = .aimd)
    {op : Op} (hover : c.startsOver op = false) (clock : ℤ) :
    Moves c.pace (op.time?.getD clock) (c.act op).1.pace := by
  cases op with
  | onFeedback feedback periodNs streaming now => exact onFeedback_moves h hmode _ _ _ now
  | onWifiState rssiDbm linkSpeedMbps when' => exact onWifiState_moves h hmode _ _ when'
  | onFrameBytes frameIndex streamIndex bytes now =>
    have hpace := (onFrameBytes_framesOnly c frameIndex streamIndex bytes now).pace
    simp only [act]
    rw [hpace]
    exact .refl _ _
  | _ =>
    rw [(act_switchesOnly hover rfl).1]
    exact .refl _ _

/-! ## The history of a run -/

/-- When the bitrate was lowered and raised, newest first, and what it was before the
severe drop that the rebound is from. -/
structure History where
  clock : ℤ
  lowered : List ℤ := []
  raised : List ℤ := []
  preDrop : ℕ := 0
deriving DecidableEq, Repr

/-- What an operation adds to it. -/
def History.record (h : History) (p p' : Pace) (now : ℤ) : History where
  clock := now
  lowered := if p'.bitrate < p.bitrate then now :: h.lowered else h.lowered
  raised := if p.bitrate < p'.bitrate then now :: h.raised else h.raised
  preDrop := if p.st = .steady ∧ p'.st = .recovering then p.bitrate else h.preDrop

/-- Any two of the times, newest first, are that far apart. -/
def Spaced (gap : ℤ) (times : List ℤ) : Prop :=
  times.Pairwise fun later earlier => gap ≤ later - earlier

/-- The invariant: the two timers are no older than what they were last used for. -/
structure Kept (p : Pace) (h : History) : Prop where
  lowered : Spaced decreaseCooldown h.lowered
  raised : Spaced recoveryStepInterval h.raised
  cooling : ∀ t ∈ h.lowered, t ≤ p.lastDecrease
  past : ∀ t ∈ h.raised, t ≤ h.clock
  healthy : ∀ t ∈ h.raised, ∀ since, p.healthySince = some since → t ≤ since
  below : p.st = .recovering → p.recoveryTarget ≤ h.preDrop

theorem Moves.kept {p p' : Pace} {now : ℤ} {h : History} (hmoves : Moves p now p')
    (hclock : h.clock ≤ now) (hkept : Kept p h) : Kept p' (h.record p p' now) := by
  have hcooldown : 0 ≤ decreaseCooldown := by decide
  unfold History.record
  constructor
  · dsimp only
    split
    · rename_i hlower
      rcases hmoves.lower hlower with ⟨-, hcooled⟩
      apply List.pairwise_cons.mpr
      refine ⟨fun t ht => ?_, hkept.lowered⟩
      have hbefore := hkept.cooling t ht
      omega
    · exact hkept.lowered
  · dsimp only
    split
    · rename_i hraise
      rcases hmoves.raise hraise with ⟨-, since, hsince, hheld⟩
      apply List.pairwise_cons.mpr
      refine ⟨fun t ht => ?_, hkept.raised⟩
      have hbefore := hkept.healthy t ht since hsince
      omega
    · exact hkept.raised
  · dsimp only
    have hold : ∀ t ∈ h.lowered, t ≤ p'.lastDecrease := by
      intro t ht
      have hbefore := hkept.cooling t ht
      rcases hmoves.decreased with hsame | ⟨hnow, hcooled⟩ <;> omega
    split
    · rename_i hlower
      exact List.forall_mem_cons.mpr ⟨(hmoves.lower hlower).1.ge, hold⟩
    · exact hold
  · dsimp only
    have hold : ∀ t ∈ h.raised, t ≤ now := fun t ht => (hkept.past t ht).trans hclock
    split
    · exact List.forall_mem_cons.mpr ⟨le_rfl, hold⟩
    · exact hold
  · dsimp only
    split
    · -- A raise ends in a flush
      rename_i hraise
      intro t _ since hsince
      rw [(hmoves.raise hraise).1] at hsince
      cases hsince
    · intro t ht since hsince
      rcases hmoves.since since hsince with hsame | hnow
      · exact hkept.healthy t ht since hsame
      · rw [hnow]
        exact (hkept.past t ht).trans hclock
  · intro hrecovering
    dsimp only
    split
    · rename_i hstarts
      exact hmoves.starts hstarts.1 hstarts.2
    · rename_i hgoes
      have hst : p.st = .recovering := by
        cases hc : p.st with
        | steady => exact absurd ⟨hc, hrecovering⟩ hgoes
        | recovering => rfl
      exact (hmoves.target hst).trans (hkept.below hst)

/-! ## Runs under v1 -/

/-- A controller and the history of its bitrate. -/
structure PacedRun where
  c : BitrateController
  history : History

/-- v1 stays in force and enabled, nothing starts over, and the clock does not go back. -/
def PacedRun.allows (s : PacedRun) (op : Op) : Bool :=
  s.c.mode == .aimd && s.c.enabled && !s.c.startsOver op &&
    decide (s.history.clock ≤ op.time?.getD s.history.clock)

def pacedStep (s : PacedRun) (op : Op) : Option PacedRun :=
  if s.allows op then
    let c := (s.c.act op).1
    some ⟨c, s.history.record s.c.pace c.pace (op.time?.getD s.history.clock)⟩
  else none

/-- What a step of such a run does, and what the run up to it has done. -/
structure Disciplined (s : PacedRun) (op : Op) (s' : PacedRun) : Prop where
  -- Any two decreases, and any two raises
  lowered : Spaced (ms 2000) s'.history.lowered
  raised : Spaced (ms 1000) s'.history.raised
  -- While recovering
  below : s.c.st = .recovering → s.c.current < s'.c.current →
    s'.c.current ≤ s.history.preDrop
  rebound : s.c.st = .recovering → ∀ feedback periodNs streaming now c₀,
    op = .onFeedback feedback periodNs streaming now →
    s.c.evaluated feedback periodNs streaming now = some c₀ →
    healthy (c₀.analysed now) = true → s.c.current ≤ s'.c.current
  target : s.c.st = .recovering → s'.c.recoveryTarget ≤ s.c.recoveryTarget

/-- The invariant of a run. -/
structure PacedRun.Sound (s : PacedRun) : Prop where
  limited : s.c.ceiling = 0 ∨ s.c.Ranged
  kept : Kept s.c.pace s.history

theorem pacedStep_sound {s s' : PacedRun} {op : Op} (h : s.Sound)
    (hstep : pacedStep s op = some s') : s'.Sound ∧ Disciplined s op s' := by
  unfold pacedStep at hstep
  split at hstep
  swap
  · cases hstep
  rename_i hallowed
  simp only [PacedRun.allows, Bool.and_eq_true, beq_iff_eq, Bool.not_eq_true',
    decide_eq_true_eq] at hallowed
  rcases hallowed with ⟨⟨⟨hmode, -⟩, hover⟩, hclock⟩
  cases hstep
  have hmoves := act_moves h.limited hmode hover s.history.clock
  have hkept := hmoves.kept hclock h.kept
  refine ⟨⟨?_, hkept⟩, ?_⟩
  · rcases h.limited with hnone | hranged
    · exact act_unlimited hnone op
    · exact .inr (act_ranged hranged op)
  · constructor
    · exact hkept.lowered
    · exact hkept.raised
    · intro hst hraise
      exact (hmoves.below hst hraise).trans (h.kept.below hst)
    · -- A healthy window is judged in a state with the same bitrate
      rintro - feedback periodNs streaming now c₀ rfl hevaluated hhealthy
      have hcore := (evaluated_core hevaluated).1
      have hranged := (h.limited.resolve_left (evaluated_limited hevaluated)).of_core hcore
      have hmode₀ := (mode_of_settings (settings_of_core hcore)).trans hmode
      have hup := evaluate_healthy hranged hmode₀ now hhealthy
      rw [bitrate_of_core hcore, ← onFeedback_of_evaluated hevaluated] at hup
      exact hup
    · exact hmoves.target

/-- Every run under v1 is disciplined, from any `configure` and at any time. -/
theorem step_discipline (c : BitrateController) (conf : Config) (ceilingBps : ℕ)
    (clientEnabled radioAware : Bool) (clientMode : Option BitrateMode) (clock : ℤ)
    (ops : List Op) :
    Runs.Along pacedStep Disciplined
      ⟨c.configure conf ceilingBps clientEnabled radioAware clientMode, { clock := clock }⟩ ops := by
  have hstart : PacedRun.Sound
      ⟨c.configure conf ceilingBps clientEnabled radioAware clientMode, { clock := clock }⟩ := by
    constructor
    · exact reached_ranged c conf ceilingBps clientEnabled radioAware clientMode []
    · constructor
      · exact List.Pairwise.nil
      · exact List.Pairwise.nil
      · exact List.forall_mem_nil _
      · exact List.forall_mem_nil _
      · exact List.forall_mem_nil _
      · intro hrecovering
        cases hrecovering
  have hsound : ∀ s op s', PacedRun.Sound s → pacedStep s op = some s' → PacedRun.Sound s' :=
    fun s op s' h hstep => (pacedStep_sound h hstep).1
  exact Runs.along_of_invariant hsound (fun s op s' h hstep => (pacedStep_sound h hstep).2) ops _
    hstart

end WivrnNx.BitrateController
