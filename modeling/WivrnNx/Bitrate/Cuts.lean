import WivrnNx.Bitrate.Range

/-!
# What a decision leaves alone

Decisions of both laws and the preemptive steps of the radio touch neither the ring of
frames nor the newest frame, and add no sample to the window. What they do to the window
and to the cut-off for the frames in flight is a flush, or nothing.

- `Cuts`: that relation, which composes;
- `evaluate_cuts`, `onWifiState_cuts`: the two entries.
-/

namespace WivrnNx.BitrateController

/-! ## What a decision touches -/

/-- The frames being collected, the newest one and the cut-off. -/
def ring (c : BitrateController) : (Fin frameRingSize → FrameState) × ℕ × Bool × ℕ :=
  (c.frames, c.newestFrame, c.hasFrames, c.staleBefore)

/-- A decision leaves the frames alone, and adds no sample. It empties the window and
moves the cut-off to where a flush puts it, or moves neither the cut-off nor the
bitrate. -/
structure Cuts (c c' : BitrateController) : Prop where
  frames : c'.frames = c.frames
  newestFrame : c'.newestFrame = c.newestFrame
  hasFrames : c'.hasFrames = c.hasFrames
  window : ∀ s ∈ c'.window, s ∈ c.window
  cut : c'.staleBefore = c.flush.staleBefore ∧ c'.window = [] ∨
    c'.staleBefore = c.staleBefore ∧ c'.bitrate = c.bitrate

/-- A step that moves neither. -/
theorem Cuts.kept {c c' : BitrateController} (hring : c'.ring = c.ring)
    (hbitrate : c'.bitrate = c.bitrate) (hwindow : ∀ s ∈ c'.window, s ∈ c.window) :
    Cuts c c' := by
  simp only [ring, Prod.mk.injEq] at hring
  rcases hring with ⟨hframes, hnewest, hhas, hstale⟩
  exact ⟨hframes, hnewest, hhas, hwindow, .inr ⟨hstale, hbitrate⟩⟩

/-- Whatever else a step did, it ends in a flush. -/
theorem Cuts.flushed {c c' : BitrateController} (hring : c'.ring = c.ring) :
    Cuts c c'.flush := by
  simp only [ring, Prod.mk.injEq] at hring
  rcases hring with ⟨hframes, hnewest, hhas, hstale⟩
  refine ⟨hframes, hnewest, hhas, fun s hs => (List.not_mem_nil hs).elim, .inl ⟨?_, rfl⟩⟩
  simp only [flush, hnewest, hhas, hstale]

theorem Cuts.refl (c : BitrateController) : Cuts c c := .kept rfl rfl fun _ hs => hs

theorem Cuts.trans {c c' c'' : BitrateController} (h : Cuts c c') (h' : Cuts c' c'') :
    Cuts c c'' := by
  refine ⟨h'.frames.trans h.frames, h'.newestFrame.trans h.newestFrame,
    h'.hasFrames.trans h.hasFrames, fun s hs => h.window s (h'.window s hs), ?_⟩
  -- Flushing twice cuts where flushing once does
  have hagain : c'.flush.staleBefore = c.flush.staleBefore := by
    simp only [flush, h.newestFrame, h.hasFrames]
    rcases h.cut with hcut | hkept
    · rw [hcut.1]
      simp only [flush]
      split <;> rfl
    · rw [hkept.1]
  rcases h'.cut with hcut' | hkept'
  · exact .inl ⟨hcut'.1.trans hagain, hcut'.2⟩
  · rcases h.cut with hcut | hkept
    · refine .inl ⟨hkept'.1.trans hcut.1, List.eq_nil_iff_forall_not_mem.mpr fun s hs => ?_⟩
      have hin := h'.window s hs
      rw [hcut.2] at hin
      cases hin
    · exact .inr ⟨hkept'.1.trans hkept.1, hkept'.2.trans hkept.2⟩

theorem Cuts.report {c c' : BitrateController} (h : Cuts c c') (previous : ℕ) :
    Cuts c (report previous c').1 := by
  rw [report_fst]
  exact h

/-! ## The control laws -/

theorem aimdDecrease_cuts (c : BitrateController) (severe : Bool) (now : ℤ) :
    Cuts c (c.aimdDecrease severe now) := by
  have hlower : ∀ c : BitrateController, c.lowerTarget.ring = c.ring := by
    intro c
    unfold lowerTarget
    split <;> rfl
  have hdrop : ∀ c : BitrateController, (c.drop severe).ring = c.ring := by
    intro c
    unfold drop
    split <;> rfl
  have hsettle : ∀ c : BitrateController, c.settle.ring = c.ring := by
    intro c
    unfold settle
    split <;> rfl
  apply Cuts.flushed
  rw [hsettle, hdrop, hlower]
  rfl

theorem aimdRebound_cuts (c : BitrateController) : Cuts c c.aimdRebound := Cuts.flushed rfl

theorem aimdIncrease_cuts (c : BitrateController) : Cuts c c.aimdIncrease := Cuts.flushed rfl

theorem bbrBackoff_cuts (c : BitrateController) (now : ℤ) (s : Stats) :
    Cuts c (c.bbrBackoff now s) := Cuts.flushed rfl

theorem evaluateAimd_cuts (c : BitrateController) (now : ℤ) (s : Stats) :
    Cuts c (c.evaluateAimd now s).1 := by
  have hsince : ∀ since, Cuts c { c with healthySince := since } :=
    fun since => .kept rfl rfl fun _ hs => hs
  have houtcome := evaluateAimd_outcome c now s
  generalize c.evaluateAimd now s = r at *
  cases houtcome with
  | waits since => exact hsince since
  | decreases => exact (hsince none).trans ((aimdDecrease_cuts _ _ now).report _)
  | rebounds => exact (hsince _).trans ((aimdRebound_cuts _).report _)
  | increases => exact (hsince _).trans ((aimdIncrease_cuts _).report _)

theorem bbrUnmeasured_cuts (c : BitrateController) (now : ℤ) (s : Stats) :
    Cuts c (c.bbrUnmeasured now s).1 := by
  unfold bbrUnmeasured
  dsimp only
  split
  · exact .kept rfl rfl fun _ hs => hs
  · split
    · exact .kept rfl rfl fun _ hs => hs
    · apply Cuts.report
      exact Cuts.flushed rfl

/-- The end of a probe flushes, and nothing else in the state machine of v2 does. -/
theorem bbrStep_cuts (c : BitrateController) (now : ℤ) : Cuts c (c.bbrStep now).1 := by
  have hround : Cuts c (c.bbrRound now) := by
    unfold bbrRound
    dsimp only
    split
    · exact .kept rfl rfl fun _ hs => hs
    · split
      · exact .kept rfl rfl fun _ hs => hs
      · exact .refl c
  unfold bbrStep
  split
  · unfold bbrStartup
    dsimp only
    split
    · exact hround.trans (.kept rfl rfl fun _ hs => hs)
    · exact hround
  · split
    · exact Cuts.flushed rfl
    · exact .refl c
  · split
    · exact .kept rfl rfl fun _ hs => hs
    · exact .refl c

theorem bbrFollow_cuts (c : BitrateController) (now : ℤ) : Cuts c (c.bbrFollow now).1 := by
  have hradio : Cuts c (c.bbrRadio now) := by
    unfold bbrRadio
    split
    · exact .kept rfl rfl fun _ hs => hs
    · exact .refl c
  have hstep := hradio.trans (bbrStep_cuts (c.bbrRadio now) now)
  have hsame : ((c.bbrRadio now).bbrStep now).1.bitrate = c.bitrate :=
    bitrate_of_core ((bbrStep_core _ now).trans (bbrRadio_core c now))
  unfold bbrFollow
  dsimp only
  split
  · exact hstep
  · apply Cuts.report
    split
    · exact hstep.trans (Cuts.flushed rfl)
    · rename_i hheld
      refine hstep.trans (.kept rfl ?_ fun _ hs => hs)
      exact (not_not.mp hheld).trans hsame.symm

theorem evaluateBbr_cuts (c : BitrateController) (now : ℤ) (s : Stats) :
    Cuts c (c.evaluateBbr now s).1 := by
  have hdrop : Cuts c (c.dropStaleEstimate now) := by
    unfold dropStaleEstimate
    split
    · exact .kept rfl rfl fun _ hs => hs
    · exact .refl c
  have hseed : Cuts c ((c.dropStaleEstimate now).seedEstimate now) := by
    apply hdrop.trans
    unfold seedEstimate
    split
    · exact .kept rfl rfl fun _ hs => hs
    · exact .refl _
  unfold evaluateBbr
  dsimp only
  split
  · exact .refl c
  · split
    · exact hdrop.trans (bbrUnmeasured_cuts _ now s)
    · split
      · split
        · exact hseed
        · exact hseed.trans ((bbrBackoff_cuts _ now s).report _)
      · exact hseed.trans (bbrFollow_cuts _ now)

/-- A hold that is let go is all that happens before the window is analysed. -/
theorem releaseStaleHold_eq (c : BitrateController) (now : ℤ) :
    ∃ hold, c.releaseStaleHold now = { c with radioHold := hold } ∧
      (hold = c.radioHold ∨ hold = false) := by
  unfold releaseStaleHold
  split
  · exact ⟨false, rfl, .inr rfl⟩
  · exact ⟨c.radioHold, rfl, .inl rfl⟩

theorem evaluate_cuts (c : BitrateController) (now : ℤ) : Cuts c (c.evaluate now).1 := by
  have hpruned : ∀ c' : BitrateController, Cuts c' (c'.pruneWindow now) :=
    fun c' => .kept rfl rfl fun _ hs => (List.dropWhile_sublist _).subset hs
  rcases releaseStaleHold_eq { c with lastEvaluation := now } now with ⟨hold, hreleased, -⟩
  have hreleased' : Cuts c ({ c with lastEvaluation := now }.releaseStaleHold now) := by
    rw [hreleased]
    exact .kept rfl rfl fun _ hs => hs
  have hexamined := hreleased'.trans (hpruned _)
  unfold evaluate
  dsimp only
  split
  · exact .refl c
  · split
    · exact hexamined
    · split
      · exact hexamined.trans (evaluateBbr_cuts _ now _)
      · exact hexamined.trans (evaluateAimd_cuts _ now _)

/-! ## Wi-Fi reports -/

/-- A preemptive step flushes when it moved the bitrate. -/
theorem onWifiState_cuts (c : BitrateController) (rssiDbm linkSpeedMbps when' : ℤ) :
    Cuts c (c.onWifiState rssiDbm linkSpeedMbps when').1 := by
  have hsample : Cuts c (c.addRadioSample rssiDbm linkSpeedMbps when') := by
    unfold addRadioSample
    dsimp only
    split <;> exact .kept rfl rfl fun _ hs => hs
  have hreleased : ∀ (c : BitrateController) t,
      Cuts c ((c.releaseRisingHold t).releaseStableHold t when') := by
    intro c t
    have hrising : Cuts c (c.releaseRisingHold t) := by
      unfold releaseRisingHold
      split
      · exact .kept rfl rfl fun _ hs => hs
      · exact .refl c
    apply hrising.trans
    unfold releaseStableHold
    split
    · split
      · exact .kept rfl rfl fun _ hs => hs
      · split
        · exact .kept rfl rfl fun _ hs => hs
        · exact .refl _
    · exact .kept rfl rfl fun _ hs => hs
  have hradio : ∀ c : BitrateController, (c.radioStep when').ring = c.ring ∧
      (c.radioStep when').window = c.window := by
    intro c
    unfold radioStep radioDecrease
    split
    · dsimp only
      split <;> exact ⟨rfl, rfl⟩
    · exact ⟨rfl, rfl⟩
  have houtcome := onWifiState_outcome c rssiDbm linkSpeedMbps when'
  generalize c.addRadioSample rssiDbm linkSpeedMbps when' = c₁ at *
  have hheld := hsample.trans (hreleased c₁ c₁.radioTrend)
  generalize c.onWifiState rssiDbm linkSpeedMbps when' = r at *
  cases houtcome with
  | ignored => exact .refl c
  | joined => exact hsample
  | held => exact hheld
  | stepped =>
    apply Cuts.report
    split
    · rename_i hsame
      refine hheld.trans (.kept (hradio _).1 hsame fun s hs => ?_)
      rw [(hradio _).2] at hs
      exact hs
    · exact hheld.trans (Cuts.flushed (hradio _).1)

end WivrnNx.BitrateController
