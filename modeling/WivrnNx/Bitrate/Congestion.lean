import WivrnNx.Bitrate.Cuts

/-!
# Congestion and the bitrate

A frame that never arrived, or four that came too late to be shown, are congestion
under both control laws. The AIMD law multiplies the bitrate in force. The bandwidth law
takes its estimate, caps it to what the link is measurably delivering and goes to 0.7
times that, and never asks what the bitrate in force is.

- `clamp_trunc_gt_iff`: the one comparison behind every decision, a clamped double
  against the bitrate in force;
- `Lags`: the estimate has outgrown the bitrate;
- `congestion_lowers_iff`: congestion never raises a bitrate that does not lag, and
  always raises one that does.
-/

namespace WivrnNx.BitrateController

/-! ## A clamped double against a bitrate -/

/-- A cast of a double to an unsigned integer rounds towards zero. -/
theorem lt_trunc_iff (n : ℕ) (x : ℚ) : n < trunc x ↔ (n : ℚ) + 1 ≤ x := by
  unfold trunc
  rw [Int.lt_toNat, ← Int.add_one_le_iff, Int.le_floor]
  push_cast
  rfl

theorem lt_clamp_iff {c : BitrateController} {n : ℕ} (hfloor : c.minBitrate ≤ n) (value : ℕ) :
    n < c.clamp value ↔ n < c.ceiling ∧ n < value := by
  unfold clamp
  split
  · omega
  · split <;> omega

/-- A decision ends above a bitrate exactly when there is room under the ceiling and its
double is a whole bit per second higher. -/
theorem clamp_trunc_gt_iff {c : BitrateController} {n : ℕ} (hfloor : c.minBitrate ≤ n) (x : ℚ) :
    n < c.clamp (trunc x) ↔ n < c.ceiling ∧ (n : ℚ) + 1 ≤ x := by
  rw [lt_clamp_iff hfloor, lt_trunc_iff]

/-- A multiplicative decrease is one, wherever the floor is. -/
theorem clamp_scaled_le {c : BitrateController} {n : ℕ} (hfloor : c.minBitrate ≤ n) {factor : ℚ}
    (hfactor : factor ≤ 1) : c.clamp (trunc (n * factor)) ≤ n := by
  apply not_lt.mp
  intro hup
  have hbeyond := ((clamp_trunc_gt_iff hfloor _).mp hup).2
  have hscaled : (n : ℚ) * factor ≤ n := mul_le_of_le_one_right (Nat.cast_nonneg _) hfactor
  linarith

/-! ## The call that is analysed -/

/-- The state that `evaluate` is called in, for the feedback that gets that far. -/
def evaluated (c : BitrateController) (feedback : Feedback) (periodNs : ℤ) (streaming : Bool)
    (now : ℤ) : Option BitrateController :=
  if ¬ c.enabled ∨ ¬ streaming ∨ c.ceiling = 0 ∨ periodNs ≤ 0 then none
  else if videoStreamCount ≤ feedback.streamIndex then none
  else
    ({ c with framePeriod := periodNs }.trackFrame feedback.frameIndex now).map
      fun c : BitrateController =>
        c.setFrame (slot feedback.frameIndex)
          (joinFeedback feedback (c.frames (slot feedback.frameIndex)))

/-- What `evaluate` finds in the window. -/
def analysed (c : BitrateController) (now : ℤ) : Stats := (c.pruneWindow now).stats

/-- Enough frames lost, or too late to be shown. -/
def Congested (s : Stats) : Prop := lostFramesDecrease ≤ s.lost ∨ lateFramesDecrease ≤ s.late

theorem onFeedback_of_evaluated {c c₀ : BitrateController} {feedback : Feedback} {periodNs : ℤ}
    {streaming : Bool} {now : ℤ} (h : c.evaluated feedback periodNs streaming now = some c₀) :
    c.onFeedback feedback periodNs streaming now = c₀.evaluate now := by
  unfold evaluated at h
  unfold onFeedback
  split at h
  · cases h
  · rename_i hguard
    rw [if_neg hguard]
    split at h
    · cases h
    · rename_i hstream
      rw [if_neg hstream]
      rcases Option.map_eq_some_iff.mp h with ⟨c', htrack, hjoined⟩
      dsimp only
      rw [htrack, ← hjoined]

/-- Feedback that is ignored, or for a frame that has been closed already. -/
theorem onFeedback_of_ignored {c : BitrateController} {feedback : Feedback} {periodNs : ℤ}
    {streaming : Bool} {now : ℤ} (h : c.evaluated feedback periodNs streaming now = none) :
    ∃ period, c.onFeedback feedback periodNs streaming now =
      ({ c with framePeriod := period }, none) := by
  unfold evaluated at h
  unfold onFeedback
  split at h
  · rename_i hguard
    rw [if_pos hguard]
    exact ⟨c.framePeriod, rfl⟩
  · rename_i hguard
    rw [if_neg hguard]
    split at h
    · rename_i hstream
      rw [if_pos hstream]
      exact ⟨c.framePeriod, rfl⟩
    · rename_i hstream
      rw [if_neg hstream]
      dsimp only
      rw [Option.map_eq_none_iff.mp h]
      exact ⟨periodNs, rfl⟩

theorem evaluated_core {c c₀ : BitrateController} {feedback : Feedback} {periodNs : ℤ}
    {streaming : Bool} {now : ℤ} (h : c.evaluated feedback periodNs streaming now = some c₀) :
    c₀.core = c.core ∧ c₀.enabled = true := by
  unfold evaluated at h
  split at h
  · cases h
  · rename_i hguard
    split at h
    · cases h
    · rcases Option.map_eq_some_iff.mp h with ⟨c', htrack, hjoined⟩
      have htracked := trackFrame_core htrack
      have hcore : c'.core = c.core := htracked
      rw [← hjoined]
      refine ⟨hcore, ?_⟩
      show c'.enabled = true
      rw [enabled_of_settings (settings_of_core hcore)]
      simpa using not_or.mp hguard |>.1

/-! ## v1 -/

/-- However deep the drop, it is one. -/
theorem drop_le {c : BitrateController} (hfloor : c.minBitrate ≤ c.bitrate) (severe : Bool) :
    (c.drop severe).bitrate ≤ c.bitrate := by
  unfold drop
  split
  · exact clamp_scaled_le hfloor (by norm_num [deepDecreaseFactor])
  · exact clamp_scaled_le hfloor (by norm_num [decreaseFactor])

theorem aimdDecrease_le {c : BitrateController} (hfloor : c.minBitrate ≤ c.bitrate)
    (severe : Bool) (now : ℤ) : (c.aimdDecrease severe now).bitrate ≤ c.bitrate := by
  have hlowered : ({ c with lastDecrease := now } : BitrateController).lowerTarget.bitrate =
      c.bitrate := by
    unfold lowerTarget
    split <;> rfl
  have hkept : ({ c with lastDecrease := now } : BitrateController).lowerTarget.minBitrate =
      c.minBitrate := congrArg Settings.minBitrate (lowerTarget_settings _)
  unfold aimdDecrease
  rw [flush_bitrate, (settle_spec _).1]
  refine le_of_le_of_eq (drop_le ?_ severe) hlowered
  rw [hkept, hlowered]
  exact hfloor

theorem evaluateAimd_congested {c : BitrateController} (hfloor : c.minBitrate ≤ c.bitrate)
    (now : ℤ) {s : Stats} (hcongested : Congested s) :
    (c.evaluateAimd now s).1.bitrate ≤ c.bitrate := by
  have hdegraded : degraded s = true := by
    unfold degraded
    rcases hcongested with hlost | hlate
    · simp [hlost]
    · simp [hlate]
  simp only [evaluateAimd, if_pos hdegraded]
  split
  · exact le_rfl
  · rw [report_fst]
    exact aimdDecrease_le (c := { c with healthySince := none }) hfloor _ now

/-! ## v2 -/

/-- What a filter with this maximum is taken down to: the rate that the link is
delivering, or without one a fraction of what it remembers. -/
def deliverable (maximum rate : ℚ) : ℚ :=
  min (if 0 < rate then rate else backoffFactor * maximum) maximum

/-- The estimate has outgrown the bitrate: a back-off that nothing delays, from an
estimate that was measured, to a bitrate above the one in force. -/
structure Outgrown (c : BitrateController) (now : ℤ) (rate : ℚ) : Prop where
  settled : c.lastBbrChange = 0 ∨ changeSettle ≤ now - c.lastBbrChange
  cooled : decreaseCooldown ≤ now - c.lastDecrease
  measured : estimatorMinSamples ≤ c.bandwidthSamples
  fresh : now - c.lastBandwidthSample ≤ estimatorWindow
  room : c.bitrate < c.ceiling
  higher : (c.bitrate : ℚ) + 1 ≤ backoffFactor * deliverable c.bandwidth.get rate

/-- Where a back-off ends, with the maximum that it found. -/
theorem bbrBackoff_bitrate (c : BitrateController) (now : ℤ) (s : Stats) :
    (c.bbrBackoff now s).bitrate =
      c.clamp (trunc (backoffFactor * deliverable c.bandwidth.get s.rate)) := by
  show c.clamp (trunc (backoffFactor * (c.bandwidth.cap _).get)) = _
  rw [MaxFilter.get_cap]
  rfl

/-- An estimate that is the bitrate itself is never too high. -/
theorem deliverable_seeded_le (n : ℕ) (rate : ℚ) : backoffFactor * deliverable n rate < n + 1 := by
  have hle : deliverable n rate ≤ n := min_le_right _ _
  have hn : (0 : ℚ) ≤ n := Nat.cast_nonneg n
  unfold backoffFactor
  linarith

/-- A seeded estimate backs off downwards. -/
theorem seeded_backoff_le {c : BitrateController} (hfloor : c.minBitrate ≤ c.bitrate)
    (hunmeasured : c.bandwidthSamples < estimatorMinSamples) (now : ℤ) (s : Stats) :
    ((c.seedEstimate now).bbrBackoff now s).bitrate ≤ c.bitrate := by
  have hseeded : c.seedEstimate now =
      { c with
        bandwidth := ({} : MaxFilter).update c.bitrate now estimatorWindow
        bandwidthSamples := estimatorMinSamples
        lastBandwidthSample := now } := if_pos hunmeasured
  rw [bbrBackoff_bitrate, hseeded]
  apply not_lt.mp
  intro hup
  have hhigher := ((clamp_trunc_gt_iff (c := { c with
    bandwidth := ({} : MaxFilter).update c.bitrate now estimatorWindow
    bandwidthSamples := estimatorMinSamples
    lastBandwidthSample := now }) hfloor _).mp hup).2
  exact absurd hhigher (not_le.mpr (deliverable_seeded_le c.bitrate s.rate))

theorem evaluateBbr_congested {c : BitrateController} (hfloor : c.minBitrate ≤ c.bitrate)
    (now : ℤ) {s : Stats} (hcongested : Congested s) :
    (c.evaluateBbr now s).1.bitrate ≤ c.bitrate ↔ ¬ c.Outgrown now s.rate := by
  have hacute : c.acute s = true := by
    unfold acute
    rcases hcongested with hlost | hlate
    · simp [hlost]
    · simp [hlate]
  unfold evaluateBbr
  split
  · rename_i hsettling
    refine ⟨fun _ houtgrown => ?_, fun _ => le_rfl⟩
    rcases houtgrown.settled with hnever | hsettled
    · exact hsettling.1 hnever
    · exact absurd hsettling.2 (not_lt.mpr hsettled)
  · rename_i hsettled
    dsimp only
    rw [hacute, if_neg (fun hnone => hnone.2 rfl), if_pos rfl]
    by_cases hmeasured : estimatorMinSamples ≤ c.bandwidthSamples ∧
        now - c.lastBandwidthSample ≤ estimatorWindow
    · -- The estimate stays as it was found
      have hkept : c.dropStaleEstimate now = c :=
        if_neg fun hstale => absurd hstale.2 (not_lt.mpr hmeasured.2)
      have hseeded : c.seedEstimate now = c := if_neg (not_lt.mpr hmeasured.1)
      rw [hkept, hseeded]
      split
      · rename_i hcooling
        exact ⟨fun _ houtgrown => absurd hcooling (not_lt.mpr houtgrown.cooled), fun _ => le_rfl⟩
      · rename_i hcooled
        rw [report_fst, bbrBackoff_bitrate, ← not_lt, clamp_trunc_gt_iff hfloor, not_iff_not]
        constructor
        · rintro ⟨hroom, hhigher⟩
          refine ⟨?_, not_lt.mp hcooled, hmeasured.1, hmeasured.2, hroom, hhigher⟩
          by_contra hsettling
          rcases not_or.mp hsettling with ⟨hchanged, hearly⟩
          exact hsettled ⟨hchanged, not_le.mp hearly⟩
        · exact fun houtgrown => ⟨houtgrown.room, houtgrown.higher⟩
    · -- It is seeded with the bitrate in force
      have hunmeasured : (c.dropStaleEstimate now).bandwidthSamples < estimatorMinSamples := by
        unfold dropStaleEstimate
        split
        · show 0 < estimatorMinSamples
          decide
        · rename_i hfresh
          apply not_le.mp
          intro henough
          have hsome : c.bandwidthSamples ≠ 0 := by
            intro hzero
            rw [hzero] at henough
            exact absurd henough (by decide)
          exact hmeasured ⟨henough, not_lt.mp fun hstale => hfresh ⟨hsome, hstale⟩⟩
      have hcore := dropStaleEstimate_core c now
      have hbitrate : (c.dropStaleEstimate now).bitrate = c.bitrate := bitrate_of_core hcore
      have hfloor' : (c.dropStaleEstimate now).minBitrate ≤ (c.dropStaleEstimate now).bitrate := by
        rw [hbitrate, show (c.dropStaleEstimate now).minBitrate = c.minBitrate from
          congrArg Settings.minBitrate (settings_of_core hcore)]
        exact hfloor
      refine ⟨fun _ houtgrown => hmeasured ⟨houtgrown.measured, houtgrown.fresh⟩, fun _ => ?_⟩
      split
      · rw [bitrate_of_core (seedEstimate_core _ now), hbitrate]
      · rw [report_fst]
        exact (seeded_backoff_le hfloor' hunmeasured now s).trans hbitrate.le

/-! ## Either law -/

/-- The call evaluates a full window, v2 is in force, and its estimate has outgrown the
bitrate. -/
structure Lags (c : BitrateController) (now : ℤ) : Prop where
  law : c.mode = .bbr
  due : evaluationInterval ≤ now - c.lastEvaluation
  samples : minSamples ≤ (c.analysed now).count
  outgrown : c.Outgrown now (c.analysed now).rate

theorem evaluate_congested {c : BitrateController} (hfloor : c.minBitrate ≤ c.bitrate) (now : ℤ)
    (hcongested : Congested (c.analysed now)) :
    (c.evaluate now).1.bitrate ≤ c.bitrate ↔ ¬ c.Lags now := by
  rcases releaseStaleHold_eq { c with lastEvaluation := now } now with ⟨hold, hreleased, -⟩
  have hcongested' : Congested
      (({ c with lastEvaluation := now, radioHold := hold } : BitrateController).pruneWindow
        now).stats := hcongested
  unfold evaluate
  rw [hreleased]
  dsimp only
  split
  · rename_i hearly
    -- Too early, or too few samples: nothing is decided
    exact ⟨fun _ hlags => absurd hearly (not_lt.mpr hlags.due), fun _ => le_rfl⟩
  · rename_i hdue
    split
    · rename_i hfew
      exact ⟨fun _ hlags => absurd hfew (not_lt.mpr hlags.samples), fun _ => le_rfl⟩
    · rename_i hmany
      split
      · rename_i hlaw
        have hlowers := evaluateBbr_congested
          (c := ({ c with lastEvaluation := now, radioHold := hold }).pruneWindow now)
          hfloor now hcongested'
        refine hlowers.trans (not_congr ⟨?_, ?_⟩)
        · exact fun ⟨h₁, h₂, h₃, h₄, h₅, h₆⟩ =>
            ⟨hlaw, not_lt.mp hdue, not_lt.mp hmany, h₁, h₂, h₃, h₄, h₅, h₆⟩
        · exact fun ⟨_, _, _, h₁, h₂, h₃, h₄, h₅, h₆⟩ => ⟨h₁, h₂, h₃, h₄, h₅, h₆⟩
      · rename_i hlaw
        have hlowers := evaluateAimd_congested
          (c := ({ c with lastEvaluation := now, radioHold := hold }).pruneWindow now)
          hfloor now hcongested'
        -- Under v1 nothing lags
        refine ⟨fun _ hlags => ?_, fun _ => hlowers⟩
        have hbbr : c.mode = .aimd := hlaw
        rw [hlags.law] at hbbr
        cases hbbr

/-! ## Reachable states -/

/-- Without a ceiling only `set_ceiling` does anything to the range. -/
theorem act_unlimited {c : BitrateController} (h : c.ceiling = 0) (op : Op) :
    (c.act op).1.ceiling = 0 ∨ (c.act op).1.Ranged := by
  -- A reset without a ceiling does nothing
  have hreset : ∀ c' : BitrateController, c'.ceiling = 0 → c'.reset.1.ceiling = 0 := by
    intro c' hnone
    rw [reset, if_pos hnone]
    exact hnone
  cases op with
  | onFeedback feedback periodNs streaming now =>
    left
    exact (congrArg Settings.ceiling (onFeedback_decides c _ _ _ _).settings).trans h
  | onWifiState rssiDbm linkSpeedMbps when' =>
    left
    exact (congrArg Settings.ceiling (onWifiState_decides c _ _ _).settings).trans h
  | onFrameBytes frameIndex streamIndex bytes now =>
    left
    have hcore := onFrameBytes_core c frameIndex streamIndex bytes now
    exact (congrArg Settings.ceiling (settings_of_core hcore)).trans h
  | setClientEnabled enabled =>
    left
    simp only [act, setClientEnabled]
    split
    · exact h
    · exact hreset _ h
  | setClientMode m =>
    left
    simp only [act, setClientMode]
    split
    · exact h
    · split
      · exact h
      · exact hreset _ h
  | setRadioAware enabled =>
    left
    simp only [act, setRadioAware]
    split <;> exact h
  | setPacingWindow window => exact .inl h
  | setCeiling ceilingBps =>
    simp only [act, setCeiling]
    split
    · exact .inl h
    · rename_i hchanged
      exact .inr (reset_ranged (fun hzero => hchanged (.inl hzero)) (min_le_right _ _))
  | reset => exact .inl (hreset c h)

/-- Every controller that was configured, with a ceiling or none yet, and then used. -/
theorem reached_ranged (c : BitrateController) (conf : Config) (ceilingBps : ℕ)
    (clientEnabled radioAware : Bool) (clientMode : Option BitrateMode) (ops : List Op) :
    let c' := (c.configure conf ceilingBps clientEnabled radioAware clientMode).run ops
    c'.ceiling = 0 ∨ c'.Ranged := by
  have hstep : ∀ (c : BitrateController) op, (c.ceiling = 0 ∨ c.Ranged) →
      (c.act op).1.ceiling = 0 ∨ (c.act op).1.Ranged := by
    rintro c op (hnone | hranged)
    · exact act_unlimited hnone op
    · exact .inr (act_ranged hranged op)
  have hrun : ∀ (ops : List Op) (c : BitrateController), (c.ceiling = 0 ∨ c.Ranged) →
      (c.run ops).ceiling = 0 ∨ (c.run ops).Ranged := by
    intro ops
    induction ops with
    | nil => exact fun c h => h
    | cons op ops ih => exact fun c h => ih _ (hstep c op h)
  apply hrun
  rcases Nat.eq_zero_or_pos ceilingBps with hzero | hpositive
  · exact .inl hzero
  · exact .inr (configure_ranged c conf hpositive clientEnabled radioAware clientMode)

/-- Congestion never raises the bitrate, unless v2's estimate has outgrown it; then it
always does. -/
theorem congestion_lowers_iff (c : BitrateController) (conf : Config) (ceilingBps : ℕ)
    (clientEnabled radioAware : Bool) (clientMode : Option BitrateMode) (ops : List Op)
    (feedback : Feedback) (periodNs : ℤ) (streaming : Bool) (now : ℤ) {c₀ : BitrateController}
    (hevaluated : ((c.configure conf ceilingBps clientEnabled radioAware clientMode).run
      ops).evaluated feedback periodNs streaming now = some c₀)
    (hcongested : Congested (c₀.analysed now)) :
    let c' := (c.configure conf ceilingBps clientEnabled radioAware clientMode).run ops
    (c'.onFeedback feedback periodNs streaming now).1.current ≤ c'.current ↔ ¬ c₀.Lags now := by
  intro c'
  have hranged := reached_ranged c conf ceilingBps clientEnabled radioAware clientMode ops
  rcases evaluated_core hevaluated with ⟨hcore, -⟩
  have hlimited : c'.ceiling ≠ 0 := by
    intro hnone
    rw [evaluated, if_pos (.inr (.inr (.inl hnone)))] at hevaluated
    cases hevaluated
  have hfloor : c₀.minBitrate ≤ c₀.bitrate :=
    ((hranged.resolve_left hlimited).of_core hcore).inRange.floor
  have hlowers := evaluate_congested hfloor now hcongested
  rw [← onFeedback_of_evaluated hevaluated, bitrate_of_core hcore] at hlowers
  exact hlowers

/-! ## A burst of losses -/

/-- When an operation is called. -/
def Op.time? : Op → Option ℤ
  | .onFeedback _ _ _ now => some now
  | .onFrameBytes _ _ _ now => some now
  | .onWifiState _ _ when' => some when'
  | _ => none

/-- A nondecreasing clock. -/
def Clocked (ops : List Op) : Prop := (ops.filterMap Op.time?).Pairwise (· ≤ ·)

instance (ops : List Op) : Decidable (Clocked ops) :=
  inferInstanceAs (Decidable (List.Pairwise _ _))

/-- Reports of frames that never arrived, at 90 frames a second. -/
def lostFrames (start count : ℕ) (now : ℤ) : List Op :=
  (List.range' start count).map fun n => .onFeedback { frameIndex := n } 11111111 true now

/-- A single lost frame on a controller that was given 100 Mbit/s. -/
theorem congestion_lowers_iff_one_lost :
    let c := ({} : BitrateController).configure {} 100000000 true true none
    ∃ c₀, (c.run (lostFrames 0 16 (ms 1000))).evaluated { frameIndex := 16 } 11111111 true
        (ms 2000) = some c₀ ∧ Congested (c₀.analysed (ms 2000)) ∧
      ((((c.run (lostFrames 0 16 (ms 1000))).onFeedback { frameIndex := 16 } 11111111 true
        (ms 2000)).1.current ≤ (c.run (lostFrames 0 16 (ms 1000))).current) ↔
        ¬ c₀.Lags (ms 2000)) := by
  intro c
  have hlost : ∃ c₀ ∈ (c.run (lostFrames 0 16 (ms 1000))).evaluated { frameIndex := 16 }
      11111111 true (ms 2000),
      lostFramesDecrease ≤ (c₀.analysed (ms 2000)).lost := by decide +kernel
  rcases hlost with ⟨c₀, hevaluated, hlost⟩
  exact ⟨c₀, hevaluated, .inl hlost, congestion_lowers_iff {} {} 100000000 true true none _ _ _ _ _
    hevaluated (.inl hlost)⟩

/-- Every frame of a second is lost but one, which arrived at 160 Mbit/s; two seconds
later the losses go on. -/
def lossBurst : List Op :=
  lostFrames 0 30 (ms 3600000) ++
  [.onFrameBytes 30 0 25000 (ms 3600000),
   .onFeedback
    { frameIndex := 30, receivedFirstPacket := 1000000000, receivedLastPacket := 1001250000,
      sentToDecoder := 1001300000 } 11111111 true (ms 3600000)] ++
  lostFrames 31 5 (ms 3600000) ++ lostFrames 36 1 (ms 3600300) ++ lostFrames 37 36 (ms 3602400)

/-- The first losses took the bitrate to 49 Mbit/s, and the next take it to 78.4: the
estimate went back up to 160 in between, and 0.49 of that is more. -/
theorem lossBurst_raises :
    let c := (({} : BitrateController).configure { control := .bbr } 100000000 true true
      none).run lossBurst
    Clocked (lossBurst ++ [.onFeedback { frameIndex := 73 } 11111111 true (ms 3602700)]) ∧
      (∃ c₀ ∈ c.evaluated { frameIndex := 73 } 11111111 true (ms 3602700),
        lostFramesDecrease ≤ (c₀.analysed (ms 3602700)).lost) ∧
      ¬ (c.onFeedback { frameIndex := 73 } 11111111 true (ms 3602700)).1.current ≤ c.current := by
  decide +kernel

end WivrnNx.BitrateController
