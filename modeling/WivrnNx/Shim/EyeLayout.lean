import WivrnNx.Encoder.D3D11Stage

/-!
# Where the shim writes the two eyes

The geometry of `DirectModeComponent::transport_frame_locked`: the staging
texture is sized off the left eye, and the right eye goes into its other half.
-/

namespace WivrnNx.Shim

/-- `SubRect`: the part of an eye texture that is copied. -/
structure SubRect where
  x : UInt32
  y : UInt32
  w : UInt32
  h : UInt32
deriving DecidableEq, Repr

/-- The rectangles that are copied, after the right one was clamped to the left. -/
def clampRects (left right : SubRect) : SubRect × SubRect :=
  (left, { right with w := min right.w left.w, h := min right.h left.h })

/-- `staging_width`. -/
def stagingWidth (eyeWidth : UInt32) : UInt32 := eyeWidth * 2

/-- `dst_x`: the column of the staging texture where eye `eye` starts. -/
def dstX (eye : ℕ) (eyeWidth : UInt32) : UInt32 := if eye = 0 then 0 else eyeWidth

/-- The columns and rows of the staging texture that eye `eye` is written to. -/
def destBox (eye : ℕ) (eyeWidth : UInt32) (rect : SubRect) : D3D11Stage.Box :=
  { left := dstX eye eyeWidth, top := 0, right := dstX eye eyeWidth + rect.w, bottom := rect.h }

/-- The half of a staging texture `2 * w` columns wide that belongs to an eye
starts where the shim writes that eye, and the eye stays inside it. -/
theorem destBox_in_half {eye : ℕ} (heye : eye < 2) {left right : SubRect} {w : ℕ}
    (hw : left.w.toNat = w) (hwide : 2 * w < 2 ^ 32) :
    let rect := if eye = 0 then (clampRects left right).1 else (clampRects left right).2
    (destBox eye left.w rect).left.toNat = eye * w ∧
      (destBox eye left.w rect).right.toNat ≤ (eye + 1) * w ∧
      (destBox eye left.w rect).bottom.toNat ≤ left.h.toNat := by
  have hmin : ∀ a b : UInt32, (min a b).toNat ≤ b.toNat := by
    intro a b
    change (if a ≤ b then a else b).toNat ≤ b.toNat
    split
    · exact UInt32.le_iff_toNat_le.mp ‹_›
    · exact le_rfl
  interval_cases eye
  · simp [destBox, dstX, clampRects, hw]
  · have hclampW := hmin right.w left.w
    have hclampH := hmin right.h left.h
    refine ⟨by simp [destBox, dstX, hw], ?_, by simpa [destBox, clampRects] using hclampH⟩
    simp only [destBox, dstX, clampRects, if_neg Nat.one_ne_zero, UInt32.toNat_add]
    omega

end WivrnNx.Shim
