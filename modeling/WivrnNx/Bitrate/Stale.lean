import WivrnNx.Bitrate.Congestion
import WivrnNx.Bitrate.Newest
import WivrnNx.Lib.Runs

/-!
# Old frames and the new bitrate

A bitrate that moved throws the window away, and the frames in flight with it: they were
sent at the old bitrate and would fill the window again with what was just thrown away.
The cut-off is the newest frame the controller knows, and what it knows depends on the
law: v2 is told of every frame sent, v1 only of those that the headset has answered for.

- `judges`: the frame that an operation turns into a sample of the window;
- `Covered`: the cut-off is past every frame sent, when the bitrate moves;
- `old_frames_silent`: in a run whose steps are covered, no frame sent before the last
  change is judged;
- `inFlight_judged`: under v1 a frame in flight is.
-/

namespace WivrnNx.BitrateController

/-! ## Frames into the window -/

/-- A frame that is closed leaves at most one sample, and none behind the cut-off. -/
theorem closeFrame_window (c : BitrateController) (i : Fin frameRingSize) (now : ℤ) :
    ((c.closeFrame i now).window = c.window ∨
      c.staleBefore ≤ (c.frames i).index ∧
        ∃ sample, (c.closeFrame i now).window = c.window ++ [sample]) ∧
      (c.closeFrame i now).staleBefore = c.staleBefore := by
  rcases c.closeFrame_cases i now with
    ⟨-, hkept⟩ | ⟨-, bandwidth, samples, last, window, hclosed, hwindow⟩
  · rw [hkept]
    exact ⟨.inl rfl, rfl⟩
  · rw [hclosed]
    exact ⟨hwindow, rfl⟩

theorem noteNewest_heard (c : BitrateController) (frameIndex : ℕ) :
    (c.noteNewest frameIndex).heard = if c.isNewest frameIndex then (true, frameIndex)
      else c.heard := by
  unfold noteNewest
  split <;> rfl

theorem noteNewest_ring (c : BitrateController) (frameIndex : ℕ) :
    (c.noteNewest frameIndex).frames = c.frames ∧
      (c.noteNewest frameIndex).staleBefore = c.staleBefore ∧
      (c.noteNewest frameIndex).window = c.window := by
  unfold noteNewest
  split <;> exact ⟨rfl, rfl, rfl⟩

/-- Tracking a frame closes at most the one that had its slot. -/
theorem trackFrame_window {c c' : BitrateController} {frameIndex : ℕ} {now : ℤ}
    (h : c.trackFrame frameIndex now = some c') :
    (c'.window = c.window ∨
      c.staleBefore ≤ (c.frames (slot frameIndex)).index ∧
        ∃ sample, c'.window = c.window ++ [sample]) ∧
      c'.staleBefore = c.staleBefore ∧ c'.heard = (c.noteNewest frameIndex).heard := by
  rcases noteNewest_ring c frameIndex with ⟨hframes, hstale, hwindow⟩
  unfold trackFrame at h
  split at h
  · cases h
  · cases h
    have hclaimed := claimSlot_heard (c.noteNewest frameIndex) frameIndex now
    refine and_assoc.mp ⟨?_, hclaimed⟩
    unfold claimSlot
    split
    · exact ⟨.inl hwindow, hstale⟩
    · have hclosed := closeFrame_window (c.noteNewest frameIndex) (slot frameIndex) now
      rw [hframes, hstale, hwindow] at hclosed
      exact hclosed

/-- The frame whose slot an operation takes, if it left a sample in the window. -/
def judges (c : BitrateController) : Op → Option ℕ
  | .onFeedback feedback periodNs streaming now =>
    match c.evaluated feedback periodNs streaming now with
    | none => none
    | some c' =>
      if c'.window = c.window then none else some (c.frames (slot feedback.frameIndex)).index
  | .onFrameBytes frameIndex streamIndex bytes now =>
    if (c.onFrameBytes frameIndex streamIndex bytes now).window = c.window then none
    else some (c.frames (slot frameIndex)).index
  | _ => none

/-- What `evaluate` is called in: the window with at most one sample more. -/
theorem evaluated_window {c c₀ : BitrateController} {feedback : Feedback} {periodNs : ℤ}
    {streaming : Bool} {now : ℤ} (h : c.evaluated feedback periodNs streaming now = some c₀) :
    (c₀.window = c.window ∨
      c.staleBefore ≤ (c.frames (slot feedback.frameIndex)).index ∧
        ∃ sample, c₀.window = c.window ++ [sample]) ∧
      c₀.staleBefore = c.staleBefore ∧ c₀.heard = (c.noteNewest feedback.frameIndex).heard := by
  have hperiod : (({ c with framePeriod := periodNs } : BitrateController).noteNewest
      feedback.frameIndex).heard = (c.noteNewest feedback.frameIndex).heard := by
    rw [noteNewest_heard, noteNewest_heard]
    rfl
  unfold evaluated at h
  split at h
  · cases h
  · split at h
    · cases h
    · rcases Option.map_eq_some_iff.mp h with ⟨c', htrack, hjoined⟩
      rcases trackFrame_window htrack with ⟨hwindow, hstale, hheard⟩
      rw [← hjoined]
      exact ⟨hwindow, hstale, hheard.trans hperiod⟩

theorem onFrameBytes_window (c : BitrateController) (frameIndex streamIndex bytes : ℕ) (now : ℤ) :
    ((c.onFrameBytes frameIndex streamIndex bytes now).window = c.window ∨
      c.staleBefore ≤ (c.frames (slot frameIndex)).index) ∧
      (c.onFrameBytes frameIndex streamIndex bytes now).staleBefore = c.staleBefore ∧
      ((c.onFrameBytes frameIndex streamIndex bytes now).heard = c.heard ∨
        (c.onFrameBytes frameIndex streamIndex bytes now).heard =
          (c.noteNewest frameIndex).heard) := by
  unfold onFrameBytes
  split
  · exact ⟨.inl rfl, rfl, .inl rfl⟩
  · split
    · exact ⟨.inl rfl, rfl, .inl rfl⟩
    · split
      · exact ⟨.inl rfl, rfl, .inl rfl⟩
      · rename_i c' htrack
        rcases trackFrame_window htrack with ⟨hwindow, hstale, hheard⟩
        exact ⟨hwindow.imp_right And.left, hstale, .inr hheard⟩

/-- A frame behind the cut-off is not judged. -/
theorem judges_fresh {c : BitrateController} {op : Op} {i : ℕ} (h : c.judges op = some i) :
    c.staleBefore ≤ i := by
  cases op with
  | onFeedback feedback periodNs streaming now =>
    unfold judges at h
    dsimp only at h
    split at h
    · cases h
    · rename_i c' hevaluated
      split at h
      · cases h
      · rename_i hgrew
        cases h
        exact ((evaluated_window hevaluated).1.resolve_left hgrew).1
  | onFrameBytes frameIndex streamIndex bytes now =>
    unfold judges at h
    dsimp only at h
    split at h
    · cases h
    · rename_i hgrew
      cases h
      exact (onFrameBytes_window c frameIndex streamIndex bytes now).1.resolve_left hgrew
  | onWifiState rssiDbm linkSpeedMbps when' => cases h
  | setClientEnabled enabled => cases h
  | setClientMode m => cases h
  | setRadioAware enabled => cases h
  | setPacingWindow window => cases h
  | setCeiling ceilingBps => cases h
  | reset => cases h

/-! ## The cut-off along a run -/

/-- An operation that goes back to the ceiling and forgets the frames. -/
def startsOver (c : BitrateController) : Op → Bool
  | .setClientEnabled enabled => enabled != c.clientEnabled && c.ceiling != 0
  | .setClientMode m => m != c.clientMode && c.mode != m.getD c.conf.control && c.ceiling != 0
  | .setCeiling ceilingBps => ceilingBps != 0 && ceilingBps != c.ceiling
  | .reset => c.ceiling != 0
  | _ => false

/-- The switches, the pacing window and the radio trend are all that may differ. -/
def SwitchesOnly (c c' : BitrateController) : Prop :=
  c' = { c with
    clientEnabled := c'.clientEnabled, clientMode := c'.clientMode, radioAware := c'.radioAware,
    pacingWindow := c'.pacingWindow, radioWindow := c'.radioWindow, radioEma := c'.radioEma,
    lastRadioSample := c'.lastRadioSample, lastRadioStep := c'.lastRadioStep,
    radioHold := c'.radioHold, radioStableSince := c'.radioStableSince }

/-- A switch that does not start over only is one, and takes no radio hold. -/
theorem act_switchesOnly {c : BitrateController} {op : Op} (h : c.startsOver op = false)
    (huntimed : op.time? = none) :
    SwitchesOnly c (c.act op).1 ∧
      ((c.act op).1.radioHold = c.radioHold ∨ (c.act op).1.radioHold = false) := by
  -- A reset without a ceiling does nothing
  have hreset : ∀ c' : BitrateController, c'.ceiling = 0 → c'.reset.1 = c' := by
    intro c' hnone
    rw [reset, if_pos hnone]
  cases op with
  | onFeedback feedback periodNs streaming now => cases huntimed
  | onFrameBytes frameIndex streamIndex bytes now => cases huntimed
  | onWifiState rssiDbm linkSpeedMbps when' => cases huntimed
  | setRadioAware enabled =>
    simp only [act, setRadioAware]
    split
    · exact ⟨rfl, .inl rfl⟩
    · exact ⟨rfl, .inr rfl⟩
  | setPacingWindow window => exact ⟨rfl, .inl rfl⟩
  | setClientEnabled enabled =>
    simp only [startsOver, Bool.and_eq_false_iff, bne_eq_false_iff_eq] at h
    simp only [act, setClientEnabled]
    split
    · exact ⟨rfl, .inl rfl⟩
    · rename_i hchanged
      rw [hreset { c with clientEnabled := enabled } (h.resolve_left hchanged)]
      exact ⟨rfl, .inl rfl⟩
  | setClientMode m =>
    simp only [startsOver, Bool.and_eq_false_iff, bne_eq_false_iff_eq] at h
    simp only [act, setClientMode]
    split
    · exact ⟨rfl, .inl rfl⟩
    · rename_i hchanged
      split
      · exact ⟨rfl, .inl rfl⟩
      · rename_i hlaw
        have hnone := h.resolve_left fun heither => heither.elim hchanged hlaw
        rw [hreset { c with clientMode := m } hnone]
        exact ⟨rfl, .inl rfl⟩
  | setCeiling ceilingBps =>
    simp only [startsOver, Bool.and_eq_false_iff, bne_eq_false_iff_eq] at h
    have hact : c.act (.setCeiling ceilingBps) = (c, none) := if_pos h
    rw [hact]
    exact ⟨rfl, .inl rfl⟩
  | reset =>
    simp only [startsOver, bne_eq_false_iff_eq] at h
    have hact : (c.act .reset).1 = c := hreset c h
    rw [hact]
    exact ⟨rfl, .inl rfl⟩

/-- The newest frame when an operation decides, its own included. -/
def noted (c : BitrateController) : Op → BitrateController
  | .onFeedback feedback _ _ _ => c.noteNewest feedback.frameIndex
  | _ => c

/-- Where an operation that moves the bitrate puts the cut-off: behind the newest frame,
or nowhere. -/
def cutoff (c : BitrateController) (op : Op) : ℕ :=
  if c.startsOver op then 0 else (c.noted op).flush.staleBefore

/-- What a controller that starts over has forgotten. -/
structure Forgotten (c : BitrateController) : Prop where
  hasFrames : c.hasFrames = false
  staleBefore : c.staleBefore = 0
  window : c.window = []
  radioHold : c.radioHold = false

theorem reset_forgets {c : BitrateController} (h : c.ceiling ≠ 0) : c.reset.1.Forgotten := by
  rw [reset, if_neg h]
  exact ⟨rfl, rfl, rfl, rfl⟩

theorem act_startsOver {c : BitrateController} {op : Op} (h : c.startsOver op = true) :
    (c.act op).1.Forgotten := by
  cases op with
  | onFeedback feedback periodNs streaming now => cases h
  | onWifiState rssiDbm linkSpeedMbps when' => cases h
  | onFrameBytes frameIndex streamIndex bytes now => cases h
  | setRadioAware enabled => cases h
  | setPacingWindow window => cases h
  | setClientEnabled enabled =>
    simp only [startsOver, Bool.and_eq_true, bne_iff_ne] at h
    simp only [act, setClientEnabled, if_neg h.1]
    exact reset_forgets h.2
  | setClientMode m =>
    simp only [startsOver, Bool.and_eq_true, bne_iff_ne] at h
    rcases h with ⟨⟨hchanged, hlaw⟩, hceiling⟩
    have hlaw' : ¬ c.mode = ({ c with clientMode := m } : BitrateController).mode := hlaw
    simp only [act, setClientMode, if_neg hchanged, if_neg hlaw']
    exact reset_forgets hceiling
  | setCeiling ceilingBps =>
    simp only [startsOver, Bool.and_eq_true, bne_iff_ne] at h
    have hchanged : ¬ (ceilingBps = 0 ∨ ceilingBps = c.ceiling) := not_or.mpr h
    simp only [act, setCeiling, if_neg hchanged]
    exact reset_forgets h.1
  | reset =>
    simp only [startsOver, bne_iff_ne] at h
    exact reset_forgets h

/-- An operation that does not start over moves the cut-off there, or moves neither the
cut-off nor the bitrate. -/
theorem act_cut {c : BitrateController} {op : Op} (h : c.startsOver op = false) :
    ((c.act op).1.staleBefore = (c.noted op).flush.staleBefore ∧ (c.act op).1.window = []) ∧
      (c.act op).1.heard = (c.noted op).heard ∨
    (c.act op).1.staleBefore = c.staleBefore ∧ (c.act op).1.bitrate = c.bitrate ∧
      ((c.act op).1.heard = c.heard ∨
        ∃ n, op.frame? = some n ∧ (c.act op).1.heard = (c.noteNewest n).heard) := by
  cases op with
  | onFeedback feedback periodNs streaming now =>
    cases hevaluated : c.evaluated feedback periodNs streaming now with
    | none =>
      -- Not tracked, so not decided upon either
      rcases onFeedback_of_ignored hevaluated with ⟨period, hkept⟩
      have hact : c.act (.onFeedback feedback periodNs streaming now) = _ := hkept
      rw [hact]
      exact .inr ⟨rfl, rfl, .inl rfl⟩
    | some c₀ =>
      rcases evaluated_window hevaluated with ⟨-, hstale, hheard⟩
      have hbitrate : c₀.bitrate = c.bitrate := bitrate_of_core (evaluated_core hevaluated).1
      have hcutoff : c₀.flush.staleBefore =
          (c.noted (.onFeedback feedback periodNs streaming now)).flush.staleBefore := by
        simp only [heard, Prod.mk.injEq] at hheard
        simp only [noted, flush, hheard.1, hheard.2, hstale, (noteNewest_ring c _).2.1]
      have hheard' : (c₀.evaluate now).1.heard = (c.noteNewest feedback.frameIndex).heard :=
        (evaluate_cuts c₀ now).heard.trans hheard
      simp only [act, onFeedback_of_evaluated hevaluated]
      rcases (evaluate_cuts c₀ now).cut with hcut | hkept
      · exact .inl ⟨⟨hcut.1.trans hcutoff, hcut.2⟩, hheard'⟩
      · exact .inr ⟨hkept.1.trans hstale, hkept.2.trans hbitrate, .inr ⟨_, rfl, hheard'⟩⟩
  | onFrameBytes frameIndex streamIndex bytes now =>
    rcases onFrameBytes_window c frameIndex streamIndex bytes now with ⟨-, hstale, hheard⟩
    refine .inr ⟨hstale, bitrate_of_core (onFrameBytes_core _ _ _ _ _), ?_⟩
    exact hheard.imp_right fun hnoted => ⟨_, rfl, hnoted⟩
  | onWifiState rssiDbm linkSpeedMbps when' =>
    have hcuts := onWifiState_cuts c rssiDbm linkSpeedMbps when'
    rcases hcuts.cut with hcut | hkept
    · exact .inl ⟨hcut, hcuts.heard⟩
    · exact .inr ⟨hkept.1, hkept.2, .inl hcuts.heard⟩
  | _ =>
    right
    rw [(act_switchesOnly h rfl).1]
    exact ⟨rfl, rfl, .inl rfl⟩

/-- What the cut-off is worth: never past the newest frame, and gone with the frames. -/
structure CutOff (c : BitrateController) : Prop where
  bound : c.hasFrames = true →
    c.newestFrame + 1 < 2 ^ 64 ∧ c.staleBefore ≤ c.newestFrame + 1
  forgotten : c.hasFrames = false → c.staleBefore = 0

theorem CutOff.noteNewest {c : BitrateController} (h : c.CutOff) {n : ℕ} (hn : n < noFrame) :
    (c.noteNewest n).CutOff := by
  have hroom : n + 1 < 2 ^ 64 := Nat.add_lt_of_lt_sub hn
  rcases noteNewest_ring c n with ⟨-, hstale, -⟩
  have hheard := noteNewest_heard c n
  split at hheard
  · rename_i hnewest
    simp only [heard, Prod.mk.injEq] at hheard
    constructor
    · intro _
      rw [hheard.2, hstale]
      refine ⟨hroom, ?_⟩
      simp only [isNewest, Bool.or_eq_true, Bool.not_eq_true', decide_eq_true_eq] at hnewest
      -- The first frame finds no cut-off, a newer one lies further ahead of it
      rcases hnewest with hfirst | hnewer
      · rw [h.forgotten hfirst]
        omega
      · cases hhas : c.hasFrames with
        | false =>
          rw [h.forgotten hhas]
          omega
        | true =>
          have hbound := (h.bound hhas).2
          omega
    · intro hnone
      rw [hheard.1] at hnone
      cases hnone
  · simp only [heard, Prod.mk.injEq] at hheard
    constructor
    · intro hhas
      rw [hheard.2, hstale]
      exact h.bound (hheard.1.symm.trans hhas)
    · intro hnone
      rw [hstale]
      exact h.forgotten (hheard.1.symm.trans hnone)

/-- A flush only ever raises the cut-off. -/
theorem CutOff.flush {c : BitrateController} (h : c.CutOff) :
    c.flush.CutOff ∧ c.staleBefore ≤ c.flush.staleBefore := by
  cases hhas : c.hasFrames with
  | false =>
    have hsame : c.flush.staleBefore = c.staleBefore := by
      show (if c.hasFrames then _ else c.staleBefore) = _
      rw [hhas]
      rfl
    refine ⟨⟨fun hsome => ?_, fun _ => ?_⟩, hsame.ge⟩
    · have hnone : c.hasFrames = true := hsome
      rw [hhas] at hnone
      cases hnone
    · rw [hsame]
      exact h.forgotten hhas
  | true =>
    rcases h.bound hhas with ⟨hroom, hbound⟩
    have hcut : c.flush.staleBefore = c.newestFrame + 1 := by
      show (if c.hasFrames then _ else c.staleBefore) = _
      rw [if_pos hhas]
      exact Nat.mod_eq_of_lt hroom
    refine ⟨⟨fun _ => ⟨hroom, hcut.le⟩, fun hnone => ?_⟩, hcut ▸ hbound⟩
    have hsome : c.hasFrames = false := hnone
    rw [hhas] at hsome
    cases hsome

/-- The cut-off is worth the same in a state with the same frames and cut-off. -/
theorem CutOff.of_eq {c c' : BitrateController} (h : c.CutOff) (hheard : c'.heard = c.heard)
    (hstale : c'.staleBefore = c.staleBefore) : c'.CutOff := by
  simp only [heard, Prod.mk.injEq] at hheard
  rcases hheard with ⟨hhas, hnewest⟩
  refine ⟨fun hsome => ?_, fun hnone => ?_⟩
  · rw [hnewest, hstale]
    exact h.bound (hhas.symm.trans hsome)
  · rw [hstale]
    exact h.forgotten (hhas.symm.trans hnone)

/-- Short of starting over, no operation lowers the cut-off. -/
theorem act_cutOff {c : BitrateController} (h : c.CutOff) {op : Op}
    (hover : c.startsOver op = false) (hframe : ∀ n, op.frame? = some n → n < noFrame) :
    (c.act op).1.CutOff ∧ c.staleBefore ≤ (c.act op).1.staleBefore := by
  rcases act_cut hover with ⟨⟨hcut, -⟩, hheard⟩ | ⟨hstale, -, hheard⟩
  · have hnoted : (c.noted op).CutOff ∧ (c.noted op).staleBefore = c.staleBefore := by
      cases op with
      | onFeedback feedback periodNs streaming now =>
        exact ⟨h.noteNewest (hframe _ rfl), (noteNewest_ring c _).2.1⟩
      | _ => exact ⟨h, rfl⟩
    rcases hnoted.1.flush with ⟨hflushed, hraised⟩
    refine ⟨hflushed.of_eq hheard hcut, ?_⟩
    rw [hcut, ← hnoted.2]
    exact hraised
  · refine ⟨?_, hstale.ge⟩
    rcases hheard with hsame | ⟨n, hn, hnew⟩
    · exact h.of_eq hsame hstale
    · exact (h.noteNewest (hframe n hn)).of_eq hnew
        (hstale.trans (noteNewest_ring c n).2.1.symm)

theorem configure_cutOff (c : BitrateController) (conf : Config) (ceilingBps : ℕ)
    (clientEnabled radioAware : Bool) (clientMode : Option BitrateMode) :
    (c.configure conf ceilingBps clientEnabled radioAware clientMode).CutOff :=
  ⟨fun hsome => Bool.noConfusion hsome, fun _ => rfl⟩

/-! ## A sender and a headset -/

/-- The controller, the frames sent so far, and of these the ones that were sent before
the bitrate last moved. -/
structure Traced where
  c : BitrateController
  sent : List ℕ := []
  old : List ℕ := []

/-- Frames are sent in order, the streams of one under the same index, and answered for
after they were sent. -/
def Traced.allows (s : Traced) : Op → Bool
  | .onFrameBytes frameIndex _ _ _ => s.sent.all (· ≤ frameIndex)
  | .onFeedback feedback _ _ _ => decide (feedback.frameIndex ∈ s.sent)
  | _ => true

/-- What an operation says has been sent. -/
def Op.sends : Op → List ℕ
  | .onFrameBytes frameIndex _ _ _ => [frameIndex]
  | _ => []

def tracedStep (s : Traced) (op : Op) : Option Traced :=
  if s.allows op then
    let c := (s.c.act op).1
    some
      { c := c
        sent := op.sends ++ s.sent
        old := if c.current = s.c.current then s.old else s.sent }
  else none

/-- The cut-off covers what it has to: every frame sent, when the bitrate moves. It is
not given up while there are old frames, and has a frame to be behind of. -/
structure Covered (s : Traced) (op : Op) : Prop where
  moved : (s.c.act op).1.current ≠ s.c.current → ∀ i ∈ s.sent, i < s.c.cutoff op
  remembered : s.c.startsOver op = true → s.old = []
  bounded : ∀ n, op.frame? = some n → n < noFrame

/-- The invariant: every old frame is behind the cut-off. -/
structure Traced.Behind (s : Traced) : Prop where
  cutOff : s.c.CutOff
  old : ∀ i ∈ s.old, i < s.c.staleBefore

theorem tracedStep_behind {s s' : Traced} {op : Op} (h : s.Behind) (hcovered : Covered s op)
    (hstep : tracedStep s op = some s') : s'.Behind := by
  unfold tracedStep at hstep
  split at hstep
  swap
  · cases hstep
  cases hstep
  cases hover : s.c.startsOver op with
  | true =>
    -- Everything is forgotten, and no frame is old
    rcases act_startsOver hover with ⟨hnone, hzero, -, -⟩
    refine ⟨⟨fun hsome => ?_, fun _ => hzero⟩, fun i hi => ?_⟩
    · rw [hnone] at hsome
      cases hsome
    · split at hi
      · rw [hcovered.remembered hover] at hi
        cases hi
      · rename_i hmoved
        have hbelow := hcovered.moved hmoved i hi
        rw [cutoff, if_pos hover] at hbelow
        omega
  | false =>
    rcases act_cutOff h.cutOff hover hcovered.bounded with ⟨hcutOff, hraised⟩
    refine ⟨hcutOff, fun i hi => ?_⟩
    split at hi
    · exact (h.old i hi).trans_le hraised
    · rename_i hmoved
      have hbelow := hcovered.moved hmoved i hi
      rw [cutoff, if_neg (by rw [hover]; decide)] at hbelow
      rcases act_cut hover with ⟨⟨hcut, -⟩, -⟩ | ⟨-, hkept, -⟩
      · exact hbelow.trans_eq hcut.symm
      · exact absurd hkept hmoved

/-- A bitrate that moves leaves an empty window. -/
theorem act_moved {c : BitrateController} {op : Op} (h : (c.act op).1.bitrate ≠ c.bitrate) :
    (c.act op).1.window = [] := by
  cases hover : c.startsOver op with
  | true => exact (act_startsOver hover).window
  | false =>
    rcases act_cut hover with ⟨⟨-, hempty⟩, -⟩ | ⟨-, hkept, -⟩
    · exact hempty
    · exact absurd hkept h

/-- Every sample that an operation adds to the window is of the frame it judges. -/
theorem act_window {c : BitrateController} {op : Op} (h : c.judges op = none) :
    ∀ x ∈ (c.act op).1.window, x ∈ c.window := by
  -- Switches and resets leave the window, or empty it
  have huntimed : op.time? = none → ∀ x ∈ (c.act op).1.window, x ∈ c.window := by
    intro hswitch x hx
    cases hover : c.startsOver op with
    | true =>
      rw [(act_startsOver hover).window] at hx
      cases hx
    | false =>
      rw [(act_switchesOnly hover hswitch).1] at hx
      exact hx
  intro x hx
  cases op with
  | onFeedback feedback periodNs streaming now =>
    unfold judges at h
    dsimp only at h
    split at h
    · rename_i hignored
      rcases onFeedback_of_ignored hignored with ⟨period, hkept⟩
      rw [act, hkept] at hx
      exact hx
    · rename_i c₀ hevaluated
      rw [act, onFeedback_of_evaluated hevaluated] at hx
      split at h
      · rename_i hsame
        rw [← hsame]
        exact (evaluate_cuts c₀ now).window x hx
      · cases h
  | onFrameBytes frameIndex streamIndex bytes now =>
    unfold judges at h
    dsimp only at h
    split at h
    · rename_i hsame
      rw [← hsame]
      exact hx
    · cases h
  | onWifiState rssiDbm linkSpeedMbps when' => exact (onWifiState_cuts c _ _ _).window x hx
  | _ => exact huntimed rfl x hx

/-- A step judges no frame from before the last change: what it adds to the window is of
another frame, and a change leaves nothing in it. -/
structure Silent (s : Traced) (op : Op) (s' : Traced) : Prop where
  judged : ∀ i ∈ s.old, s.c.judges op ≠ some i
  added : s.c.judges op = none → ∀ x ∈ s'.c.window, x ∈ s.c.window
  moved : s'.c.current ≠ s.c.current → s'.c.window = []

/-- While the cut-off covers every frame sent, the frames from before the last change of
the bitrate are never turned into a sample of the window. -/
theorem old_frames_silent (c : BitrateController) (conf : Config) (ceilingBps : ℕ)
    (clientEnabled radioAware : Bool) (clientMode : Option BitrateMode) (ops : List Op)
    (h : Runs.Along tracedStep (fun s op _ => Covered s op)
      { c := c.configure conf ceilingBps clientEnabled radioAware clientMode } ops) :
    Runs.Along tracedStep Silent
      { c := c.configure conf ceilingBps clientEnabled radioAware clientMode } ops := by
  have hstart : Traced.Behind
      { c := c.configure conf ceilingBps clientEnabled radioAware clientMode } :=
    ⟨configure_cutOff c conf ceilingBps clientEnabled radioAware clientMode,
      fun i hi => (List.not_mem_nil hi).elim⟩
  refine Runs.along_imp (fun s op s' hbehind hcovered hstep => ?_) ops _ hstart h
  have hnext : s'.c = (s.c.act op).1 := by
    unfold tracedStep at hstep
    split at hstep
    · cases hstep
      rfl
    · cases hstep
  refine ⟨tracedStep_behind hbehind hcovered hstep, fun i hi hjudged => ?_, ?_, ?_⟩
  · have hbelow := hbehind.old i hi
    have hfresh := judges_fresh hjudged
    omega
  · rw [hnext]
    exact act_window
  · rw [hnext]
    exact act_moved

instance (s : Traced) (op : Op) : Decidable (Covered s op) :=
  decidable_of_iff (((s.c.act op).1.current ≠ s.c.current → ∀ i ∈ s.sent, i < s.c.cutoff op) ∧
      (s.c.startsOver op = true → s.old = []) ∧ ∀ n ∈ op.frame?, n < noFrame)
    ⟨fun h => ⟨h.1, h.2.1, h.2.2⟩, fun h => ⟨h.moved, h.remembered, h.bounded⟩⟩

/-- Frames sent one after the other, each two ahead of the headset's report that it never
arrived. -/
def lostInFlight (start count : ℕ) (now : ℤ) : List Op :=
  (List.range' start count).flatMap fun n =>
    [.onFrameBytes (n + 2) 0 20000 now, .onFeedback { frameIndex := n } 11111111 true now]

/-- Two frames sent before the first report. -/
def firstSent (now : ℤ) : List Op := [.onFrameBytes 0 0 20000 now, .onFrameBytes 1 0 20000 now]

/-- Under v2 the frames in flight are behind the cut-off: 39 and 40 were sent before the
bitrate dropped, and judge nothing. -/
theorem old_frames_silent_v2 :
    let c := ({} : BitrateController).configure { control := .bbr } 100000000 true true none
    let ops := firstSent (ms 3600000) ++ lostInFlight 0 38 (ms 3600000) ++
      lostInFlight 38 20 (ms 3600300)
    (∃ s ∈ Runs.run tracedStep { c := c } ops, s.c.current < 100000000 ∧ 40 ∈ s.old) ∧
      Runs.Along tracedStep Silent { c := c } ops := by
  intro c ops
  have hold : ∃ s ∈ Runs.run tracedStep { c := c } ops,
      s.c.current < 100000000 ∧ 40 ∈ s.old := by
    decide +kernel
  refine ⟨hold, old_frames_silent {} { control := .bbr } 100000000 true true none ops ?_⟩
  decide +kernel

/-! ## Frames in flight -/

/-- v1 hears of a frame only from the headset: 37 and 38 are in flight when the report of
36 drops the bitrate, and 37 leaves the ring when the headset answers for 53. -/
def inFlight : List Op :=
  firstSent (ms 3600000) ++ lostInFlight 0 36 (ms 3600000) ++ lostInFlight 36 17 (ms 3600300)

/-- Frame 37 was sent at 100 Mbit/s, and judges the 40 that are in force now. -/
theorem inFlight_judged :
    let c := ({} : BitrateController).configure {} 100000000 true true none
    ∃ s ∈ Runs.run tracedStep { c := c } inFlight,
      s.c.current = 40000000 ∧ 37 ∈ s.old ∧
        s.allows (.onFeedback { frameIndex := 53 } 11111111 true (ms 3600300)) = true ∧
        s.c.judges (.onFeedback { frameIndex := 53 } 11111111 true (ms 3600300)) = some 37 := by
  decide +kernel

end WivrnNx.BitrateController
