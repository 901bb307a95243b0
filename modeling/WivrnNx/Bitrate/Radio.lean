import WivrnNx.Bitrate.Steps

/-!
# The radio only holds back

A degrading radio takes a preemptive step and a hold, which keeps the probing back until
the signal is over it. The rebound of v1 is a closed loop of its own: a severe drop lets
go of the hold, and no hold is taken while it runs.

- `onWifiState_le`: a Wi-Fi report never raises the bitrate, under either law;
- `Released`: no hold stands in the way of a rebound, after any operation;
- `evaluateAimd_held`: while v1 is held, feedback raises nothing;
- `radio_holds_back`: all three, in every reachable state.
-/

namespace WivrnNx.BitrateController

/-! ## Wi-Fi reports -/

/-- The preemptive step, under either law and with or without an estimate. -/
theorem radioDecrease_le {c : BitrateController} (hfloor : c.minBitrate ≤ c.bitrate)
    (when' : ℤ) : (c.radioDecrease when').bitrate ≤ c.bitrate := by
  unfold radioDecrease
  split
  · dsimp only
    split
    · rename_i hdown
      exact hdown.le
    · exact le_rfl
  · exact clamp_scaled_le hfloor (by norm_num [decreaseFactor])

theorem onWifiState_le {c : BitrateController} (h : c.ceiling = 0 ∨ c.Ranged)
    (rssiDbm linkSpeedMbps when' : ℤ) :
    (c.onWifiState rssiDbm linkSpeedMbps when').1.bitrate ≤ c.bitrate := by
  have hcore := addRadioSample_core c rssiDbm linkSpeedMbps when'
  have houtcome := onWifiState_outcome c rssiDbm linkSpeedMbps when'
  generalize c.addRadioSample rssiDbm linkSpeedMbps when' = c₁ at *
  have hcore₂ := (releaseHolds_core c₁ c₁.radioTrend when').trans hcore
  generalize c.onWifiState rssiDbm linkSpeedMbps when' = r at *
  cases houtcome with
  | ignored => exact le_rfl
  | joined => exact (bitrate_of_core hcore).le
  | held => exact (bitrate_of_core hcore₂).le
  | stepped _ _ hlimited =>
    have hranged₂ := (h.resolve_left hlimited).of_core hcore₂
    have hle := radioDecrease_le hranged₂.inRange.floor when'
    rw [report_fst, ← bitrate_of_core hcore₂]
    split
    · exact hle
    · exact hle

/-! ## The hold and the rebound -/

/-- No hold stands in the way of a rebound. -/
def Released (c : BitrateController) : Prop := c.st = .recovering → c.radioHold = false

/-- A step that starts no rebound and takes no hold. -/
theorem Released.of_kept {c c' : BitrateController} (h : c.Released)
    (hst : c'.st = .recovering → c.st = .recovering)
    (hhold : c'.radioHold = c.radioHold ∨ c'.radioHold = false) : c'.Released := by
  intro hrecovering
  rcases hhold with hsame | hfalse
  · rw [hsame]
    exact h (hst hrecovering)
  · exact hfalse

/-- A drop lets go of the hold, or starts no rebound. -/
theorem aimdDecrease_released {c : BitrateController} (h : c.Released) (severe : Bool) (now : ℤ) :
    (c.aimdDecrease severe now).Released ∧
      ((c.aimdDecrease severe now).radioHold = c.radioHold ∨
        (c.aimdDecrease severe now).radioHold = false) := by
  have hlow : ({ c with lastDecrease := now } : BitrateController).lowerTarget.st = c.st ∧
      ({ c with lastDecrease := now } : BitrateController).lowerTarget.radioHold =
        c.radioHold := by
    unfold lowerTarget
    split <;> exact ⟨rfl, rfl⟩
  unfold aimdDecrease
  generalize ({ c with lastDecrease := now } : BitrateController).lowerTarget = low at *
  have hsettled : (low.drop severe).settle.radioHold = (low.drop severe).radioHold := by
    unfold settle
    split <;> rfl
  have hstill := (settle_spec (low.drop severe)).2.2
  show ((low.drop severe).settle.st = .recovering →
    (low.drop severe).settle.radioHold = false) ∧
      ((low.drop severe).settle.radioHold = c.radioHold ∨
        (low.drop severe).settle.radioHold = false)
  rw [hsettled, ← hlow.2]
  cases severe with
  -- A severe drop starts a rebound and lets go, any other starts none
  | true => exact ⟨fun _ => rfl, .inr rfl⟩
  | false =>
    refine ⟨fun hrecovering => ?_, .inl rfl⟩
    have hst : low.st = .recovering := (hstill hrecovering).1
    show low.radioHold = false
    rw [hlow.2]
    exact h (hlow.1.symm.trans hst)

/-- v1 takes no hold, and lets go of it before it rebounds. -/
theorem evaluateAimd_released {c : BitrateController} (h : c.Released) (now : ℤ) (s : Stats) :
    (c.evaluateAimd now s).1.Released ∧
      ((c.evaluateAimd now s).1.radioHold = c.radioHold ∨
        (c.evaluateAimd now s).1.radioHold = false) := by
  have houtcome := evaluateAimd_outcome c now s
  generalize c.evaluateAimd now s = r at *
  cases houtcome with
  | waits => exact ⟨h, .inl rfl⟩
  | decreases =>
    rw [report_fst]
    exact aimdDecrease_released (c := { c with healthySince := none }) h _ now
  | rebounds hst =>
    rw [report_fst]
    exact ⟨fun _ => h hst, .inl rfl⟩
  | increases =>
    rw [report_fst]
    exact ⟨h, .inl rfl⟩

theorem evaluate_released {c : BitrateController} (h : c.Released) (hmode : c.mode = .aimd)
    (now : ℤ) : (c.evaluate now).1.Released := by
  rcases evaluate_aimd hmode now with hearly | ⟨hold, hhold, hfew | hdecided⟩
  · rw [hearly]
    exact h
  · rw [hfew]
    exact h.of_kept id hhold
  · have h' : (c.examined now hold).Released := h.of_kept id hhold
    rw [hdecided]
    exact (evaluateAimd_released h' now _).1

/-- While v1 is held, a window lowers the bitrate or leaves it. -/
theorem evaluateAimd_held {c : BitrateController} (hfloor : c.minBitrate ≤ c.bitrate)
    (hst : c.st = .steady) (hhold : c.radioHold = true) (now : ℤ) (s : Stats) :
    (c.evaluateAimd now s).1.bitrate ≤ c.bitrate := by
  have houtcome := evaluateAimd_outcome c now s
  generalize c.evaluateAimd now s = r at *
  cases houtcome with
  | waits => exact le_rfl
  | decreases =>
    rw [report_fst]
    exact aimdDecrease_le (c := { c with healthySince := none }) hfloor _ now
  | rebounds hrecovering => exact absurd (hst.symm.trans hrecovering) (by decide)
  | increases _ hradio =>
    -- The hold keeps the increase back
    rw [hhold] at hradio
    cases hradio

theorem evaluate_held {c : BitrateController} (hfloor : c.minBitrate ≤ c.bitrate)
    (hmode : c.mode = .aimd) (h : c.Released) (now : ℤ)
    (hheld : (c.evaluate now).1.radioHold = true) :
    (c.evaluate now).1.bitrate ≤ c.bitrate := by
  rcases evaluate_aimd hmode now with hearly | ⟨hold, hhold, hfew | hdecided⟩
  · rw [hearly]
  · rw [hfew]
    exact le_rfl
  · have h' : (c.examined now hold).Released := h.of_kept id hhold
    rw [hdecided] at hheld ⊢
    -- The hold that is left was there when the window was judged
    have hstood : (c.examined now hold).radioHold = true := by
      rcases (evaluateAimd_released h' now (c.analysed now)).2 with hsame | hgone
      · rw [← hsame]
        exact hheld
      · rw [hgone] at hheld
        cases hheld
    have hst : (c.examined now hold).st = .steady := by
      cases hc : (c.examined now hold).st with
      | steady => rfl
      | recovering =>
        rw [h' hc] at hstood
        cases hstood
    exact evaluateAimd_held (c := c.examined now hold) hfloor hst hstood now _

/-! ## Every operation -/

theorem onFeedback_released {c : BitrateController} (h : c.Released) (hmode : c.mode = .aimd)
    (feedback : Feedback) (periodNs : ℤ) (streaming : Bool) (now : ℤ) :
    (c.onFeedback feedback periodNs streaming now).1.Released := by
  cases hevaluated : c.evaluated feedback periodNs streaming now with
  | none =>
    rcases onFeedback_of_ignored hevaluated with ⟨period, hkept⟩
    rw [hkept]
    exact h
  | some c₀ =>
    have hframes := evaluated_framesOnly hevaluated
    have hmode₀ := (mode_of_settings (settings_of_core (evaluated_core hevaluated).1)).trans hmode
    have h₀ : c₀.Released := by
      rw [hframes]
      exact h
    rw [onFeedback_of_evaluated hevaluated]
    exact evaluate_released h₀ hmode₀ now

theorem addRadioSample_hold (c : BitrateController) (rssiDbm linkSpeedMbps when' : ℤ) :
    (c.addRadioSample rssiDbm linkSpeedMbps when').radioHold = c.radioHold ∨
      (c.addRadioSample rssiDbm linkSpeedMbps when').radioHold = false := by
  unfold addRadioSample
  dsimp only
  split
  · exact .inr rfl
  · exact .inl rfl

/-- A rebound takes no hold from a Wi-Fi report: the report stops at the trend. -/
theorem onWifiState_released {c : BitrateController} (h : c.Released) (hmode : c.mode = .aimd)
    (rssiDbm linkSpeedMbps when' : ℤ) :
    (c.onWifiState rssiDbm linkSpeedMbps when').1.Released := by
  have hcore := addRadioSample_core c rssiDbm linkSpeedMbps when'
  have hsampled : (c.addRadioSample rssiDbm linkSpeedMbps when').Released :=
    h.of_kept (congrArg Core.st hcore).symm.trans (addRadioSample_hold c rssiDbm linkSpeedMbps
      when')
  have houtcome := onWifiState_outcome c rssiDbm linkSpeedMbps when'
  generalize c.addRadioSample rssiDbm linkSpeedMbps when' = c₁ at *
  have hmode₁ := (mode_of_settings (settings_of_core hcore)).trans hmode
  have hst₂ := congrArg Core.st (releaseHolds_core c₁ c₁.radioTrend when')
  -- Past the rebound check v1 is steady, and stays so
  have hsteady : ¬ (c₁.mode = .aimd ∧ c₁.st = .recovering) →
      ∀ c' : BitrateController, c'.st = c₁.st → c'.Released :=
    fun hrebound c' hst hrecovering => absurd ⟨hmode₁, hst.symm.trans hrecovering⟩ hrebound
  have hstep : ∀ c' : BitrateController, (c'.radioStep when').st = c'.st := by
    intro c'
    unfold radioStep radioDecrease
    split
    · dsimp only
      split <;> rfl
    · rfl
  generalize c.onWifiState rssiDbm linkSpeedMbps when' = r at *
  cases houtcome with
  | ignored => exact h
  | joined => exact hsampled
  | held hrebound => exact hsteady hrebound _ hst₂
  | stepped hrebound =>
    rw [report_fst]
    split
    · exact hsteady hrebound _ ((hstep _).trans hst₂)
    · exact hsteady hrebound _ ((hstep _).trans hst₂)

/-- A switch lets go of the hold, or leaves it as it was. -/
theorem act_untimed_released {c : BitrateController} (h : c.Released) {op : Op}
    (huntimed : op.time? = none) : (c.act op).1.Released := by
  cases hover : c.startsOver op with
  | true => exact fun _ => (act_startsOver hover).radioHold
  | false =>
    rcases act_switchesOnly hover huntimed with ⟨hswitch, hhold⟩
    have hst : (c.act op).1.st = c.st := by rw [hswitch]
    exact h.of_kept hst.symm.trans hhold

/-- Every operation leaves the rebound of v1 without a hold. -/
theorem act_released {c : BitrateController} (hranged : c.ceiling = 0 ∨ c.Ranged)
    (h : c.Released) (op : Op) : (c.act op).1.Released := by
  -- v2 has no rebound
  have hbbr : ∀ c' : BitrateController, c'.Ranged → c'.mode = .bbr → c'.Released := by
    intro c' hranged' hlaw hrecovering
    rw [hranged'.bbr hlaw] at hrecovering
    cases hrecovering
  cases op with
  | onFeedback feedback periodNs streaming now =>
    cases hmode : c.mode with
    | aimd => exact onFeedback_released h hmode feedback periodNs streaming now
    | bbr =>
      rcases hranged with hnone | hranged
      · -- Without a ceiling feedback is ignored
        have hignored : c.onFeedback feedback periodNs streaming now = (c, none) :=
          if_pos (.inr (.inr (.inl hnone)))
        rw [act, hignored]
        exact h
      · refine hbbr _ (act_ranged hranged _) ?_
        exact (mode_of_settings (onFeedback_decides c feedback periodNs streaming
          now).settings).trans hmode
  | onWifiState rssiDbm linkSpeedMbps when' =>
    cases hmode : c.mode with
    | aimd => exact onWifiState_released h hmode rssiDbm linkSpeedMbps when'
    | bbr =>
      rcases hranged with hnone | hranged
      · have hignored : c.onWifiState rssiDbm linkSpeedMbps when' = (c, none) :=
          if_pos (.inr (.inr hnone))
        rw [act, hignored]
        exact h
      · refine hbbr _ (act_ranged hranged _) ?_
        exact (mode_of_settings (onWifiState_decides c rssiDbm linkSpeedMbps
          when').settings).trans hmode
  | onFrameBytes frameIndex streamIndex bytes now =>
    show (c.onFrameBytes frameIndex streamIndex bytes now).Released
    rw [onFrameBytes_framesOnly c frameIndex streamIndex bytes now]
    exact h
  | _ => exact act_untimed_released h rfl

/-! ## Reachable states -/

/-- What the radio may do to the bitrate. -/
structure HoldsBack (c : BitrateController) : Prop where
  wifi : ∀ rssiDbm linkSpeedMbps when',
    (c.onWifiState rssiDbm linkSpeedMbps when').1.current ≤ c.current
  rebound : c.mode = .aimd → c.st = .recovering → c.radioHold = false
  held : c.mode = .aimd → c.radioHold = true → ∀ feedback periodNs streaming now,
    (c.onFeedback feedback periodNs streaming now).1.radioHold = true →
    (c.onFeedback feedback periodNs streaming now).1.current ≤ c.current

theorem onFeedback_held {c : BitrateController} (hranged : c.ceiling = 0 ∨ c.Ranged)
    (h : c.Released) (hmode : c.mode = .aimd) (feedback : Feedback) (periodNs : ℤ)
    (streaming : Bool) (now : ℤ)
    (hheld : (c.onFeedback feedback periodNs streaming now).1.radioHold = true) :
    (c.onFeedback feedback periodNs streaming now).1.current ≤ c.current := by
  cases hevaluated : c.evaluated feedback periodNs streaming now with
  | none =>
    rcases onFeedback_of_ignored hevaluated with ⟨period, hkept⟩
    rw [hkept]
    exact le_rfl
  | some c₀ =>
    have hcore := (evaluated_core hevaluated).1
    have hranged₀ := (hranged.resolve_left (evaluated_limited hevaluated)).of_core hcore
    have hmode₀ := (mode_of_settings (settings_of_core hcore)).trans hmode
    have h₀ : c₀.Released := by
      rw [evaluated_framesOnly hevaluated]
      exact h
    rw [onFeedback_of_evaluated hevaluated] at hheld ⊢
    have hle := evaluate_held hranged₀.inRange.floor hmode₀ h₀ now hheld
    rw [bitrate_of_core hcore] at hle
    exact hle

/-- The radio only holds back, in every reachable state. -/
theorem radio_holds_back (c : BitrateController) (conf : Config) (ceilingBps : ℕ)
    (clientEnabled radioAware : Bool) (clientMode : Option BitrateMode) (ops : List Op) :
    ((c.configure conf ceilingBps clientEnabled radioAware clientMode).run ops).HoldsBack := by
  have hrun : ∀ (ops : List Op) (c : BitrateController), (c.ceiling = 0 ∨ c.Ranged) →
      c.Released → (c.run ops).Released := by
    intro ops
    induction ops with
    | nil => exact fun c _ h => h
    | cons op ops ih =>
      intro c hranged h
      refine ih _ ?_ (act_released hranged h op)
      rcases hranged with hnone | hranged
      · exact act_unlimited hnone op
      · exact .inr (act_ranged hranged op)
  have hranged := reached_ranged c conf ceilingBps clientEnabled radioAware clientMode ops
  have hreleased := hrun ops _
    (reached_ranged c conf ceilingBps clientEnabled radioAware clientMode [])
    (fun hrecovering => AimdState.noConfusion hrecovering)
  constructor
  · exact fun rssiDbm linkSpeedMbps when' => onWifiState_le hranged rssiDbm linkSpeedMbps when'
  · exact fun _ => hreleased
  · intro hmode _ feedback periodNs streaming now hheld
    exact onFeedback_held hranged hreleased hmode feedback periodNs streaming now hheld

/-- A headset that walks away takes a step and a hold. -/
example : (fun c : BitrateController => (c.current, c.radioHold))
    ((({} : BitrateController).configure {} 50000000 true true none).run
      ((List.range 5).map fun n =>
        .onWifiState (-60 - 10 * n) 400 (ms 3600000 + ms 1000 * n))) = (35000000, true) := by
  decide +kernel

end WivrnNx.BitrateController
