import WivrnNx.Bitrate.Cuts

/-!
# The newest frame the controller knows

Both `on_frame_bytes` and `on_feedback` drop a frame that is older than the ring of the
newest one. What that newest frame can be:

- `newest`: its index, while there is one;
- `act_newest`: it only ever becomes a frame that an operation was called with;
- `trackFrame_ne_none`: a frame not a whole ring behind it is not dropped.
-/

namespace WivrnNx.BitrateController

/-- Whether there are frames, and the newest one. -/
def heard (c : BitrateController) : Bool × ℕ := (c.hasFrames, c.newestFrame)

/-- The newest frame, while there is one. -/
def newest (c : BitrateController) : Option ℕ := if c.hasFrames then some c.newestFrame else none

/-- The frame an operation is about. -/
def Op.frame? : Op → Option ℕ
  | .onFeedback feedback _ _ _ => some feedback.frameIndex
  | .onFrameBytes frameIndex _ _ _ => some frameIndex
  | _ => none

theorem newest_of_heard {c c' : BitrateController} (h : c'.heard = c.heard) :
    c'.newest = c.newest := by
  simp only [heard, Prod.mk.injEq] at h
  rw [newest, newest, h.1, h.2]

/-! ## Frames into samples -/

theorem closeFrame_heard (c : BitrateController) (i : Fin frameRingSize) (now : ℤ) :
    (c.closeFrame i now).heard = c.heard := by
  rcases c.closeFrame_cases i now with
    ⟨-, hkept⟩ | ⟨-, bandwidth, samples, last, window, hclosed, -⟩
  · rw [hkept]
  · rw [hclosed]
    rfl

theorem claimSlot_heard (c : BitrateController) (frameIndex : ℕ) (now : ℤ) :
    (c.claimSlot frameIndex now).heard = c.heard := by
  unfold claimSlot
  split
  · rfl
  · exact closeFrame_heard c (slot frameIndex) now

/-- The newest frame stays, or the frame tracked is newer. -/
theorem trackFrame_newest {c c' : BitrateController} {frameIndex : ℕ} {now : ℤ}
    (h : c.trackFrame frameIndex now = some c') :
    c'.newest = c.newest ∨ c'.newest = some frameIndex := by
  unfold trackFrame at h
  split at h
  · cases h
  · cases h
    rw [newest_of_heard (claimSlot_heard _ frameIndex now)]
    unfold noteNewest
    split
    · exact .inr rfl
    · exact .inl rfl

theorem onFrameBytes_newest (c : BitrateController) (frameIndex streamIndex bytes : ℕ) (now : ℤ) :
    (c.onFrameBytes frameIndex streamIndex bytes now).newest = c.newest ∨
      (c.onFrameBytes frameIndex streamIndex bytes now).newest = some frameIndex := by
  unfold onFrameBytes
  split
  · exact .inl rfl
  · split
    · exact .inl rfl
    · split
      · exact .inl rfl
      · rename_i c' htrack
        have htracked := trackFrame_newest htrack
        exact htracked

/-! ## Every operation -/

theorem Cuts.heard {c c' : BitrateController} (h : Cuts c c') : c'.heard = c.heard :=
  Prod.ext h.hasFrames h.newestFrame

theorem onFeedback_newest (c : BitrateController) (feedback : Feedback) (periodNs : ℤ)
    (streaming : Bool) (now : ℤ) :
    (c.onFeedback feedback periodNs streaming now).1.newest = c.newest ∨
      (c.onFeedback feedback periodNs streaming now).1.newest = some feedback.frameIndex := by
  unfold onFeedback
  split
  · exact .inl rfl
  · split
    · exact .inl rfl
    · dsimp only
      split
      · exact .inl rfl
      · rename_i c' htrack
        rw [newest_of_heard (evaluate_cuts _ now).heard]
        have htracked := trackFrame_newest htrack
        exact htracked

/-- Going back to the ceiling forgets the frames, or does nothing. -/
theorem reset_newest (c : BitrateController) :
    c.reset.1.newest = c.newest ∨ c.reset.1.newest = none := by
  unfold reset
  split
  · exact .inl rfl
  · exact .inr rfl

/-- The newest frame only ever becomes the one an operation is about. -/
theorem act_newest (c : BitrateController) (op : Op) {n : ℕ} (h : (c.act op).1.newest = some n) :
    c.newest = some n ∨ op.frame? = some n := by
  have hreset : ∀ c' : BitrateController, c'.newest = c.newest → c'.reset.1.newest = some n →
      c.newest = some n := by
    intro c' hsame hn
    rcases reset_newest c' with hkept | hnone
    · rw [← hsame, ← hkept, hn]
    · rw [hnone] at hn
      cases hn
  cases op with
  | onFeedback feedback periodNs streaming now =>
    rcases onFeedback_newest c feedback periodNs streaming now with hkept | hnew
    · exact .inl (hkept.symm.trans h)
    · exact .inr (hnew.symm.trans h)
  | onFrameBytes frameIndex streamIndex bytes now =>
    rcases onFrameBytes_newest c frameIndex streamIndex bytes now with hkept | hnew
    · exact .inl (hkept.symm.trans h)
    · exact .inr (hnew.symm.trans h)
  | onWifiState rssiDbm linkSpeedMbps when' =>
    have hkept := newest_of_heard (onWifiState_cuts c rssiDbm linkSpeedMbps when').heard
    exact .inl (hkept.symm.trans h)
  | setClientEnabled enabled =>
    left
    simp only [act, setClientEnabled] at h
    split at h
    · exact h
    · exact hreset { c with clientEnabled := enabled } rfl h
  | setClientMode m =>
    left
    simp only [act, setClientMode] at h
    split at h
    · exact h
    · split at h
      · exact h
      · exact hreset { c with clientMode := m } rfl h
  | setRadioAware enabled =>
    left
    simp only [act, setRadioAware] at h
    split at h
    · exact h
    · exact h
  | setPacingWindow window => exact .inl h
  | setCeiling ceilingBps =>
    left
    simp only [act, setCeiling] at h
    split at h
    · exact h
    · exact hreset { c with
        ceiling := ceilingBps, minBitrate := min c.conf.minBitrateBps ceilingBps } rfl h
  | reset => exact .inl (hreset c rfl h)

/-- A frame not a whole ring behind the newest is not dropped. -/
theorem trackFrame_ne_none {c : BitrateController} {frameIndex : ℕ}
    (hroom : frameIndex + frameRingSize < 2 ^ 64)
    (h : ∀ n, c.newest = some n → n < frameIndex + frameRingSize) (now : ℤ) :
    c.trackFrame frameIndex now ≠ none := by
  unfold trackFrame
  split
  · rename_i hold
    rcases hold with ⟨hnewest, hbehind⟩
    have hframes : c.hasFrames = true := by
      by_contra hnone
      simp [isNewest, hnone] at hnewest
    have hlt := h c.newestFrame (by rw [newest, if_pos hframes])
    rw [Nat.mod_eq_of_lt hroom] at hbehind
    omega
  · simp

end WivrnNx.BitrateController
