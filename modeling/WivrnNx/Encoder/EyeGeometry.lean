import WivrnNx.Encoder.AmfVideoEncoder
import WivrnNx.Shim.EyeLayout

/-!
# Each eye is encoded from its own half

The shim lays a ring `2 * w` columns wide out as two halves of `w`; the helper
derives its own eye width, `w` rounded down to a multiple of 16, and copies eye
`i` from column `i * eye_width`. The two agree on where the right eye starts only
when `w` is a multiple of 16 itself: `eyes_from_own_half_iff`.
-/

namespace WivrnNx.AmfVideoEncoder

open Ipc D3D11Stage

/-! ## The aligned width -/

/-- Masking with the bits from `k` on rounds down to a multiple of `2 ^ k`. -/
theorem land_high_mask {x k m : ℕ} (hx : x < 2 ^ (k + m)) :
    x &&& (2 ^ m - 1) * 2 ^ k = x / 2 ^ k * 2 ^ k := by
  rw [← Nat.shiftLeft_eq, ← Nat.shiftLeft_eq, ← Nat.shiftRight_eq_div_pow]
  have hshift : x &&& (2 ^ m - 1) <<< k = (x >>> k &&& (2 ^ m - 1)) <<< k := by
    apply Nat.eq_of_testBit_eq
    intro i
    by_cases hi : k ≤ i
    · simp only [Nat.testBit_and, Nat.testBit_shiftLeft, Nat.testBit_shiftRight, hi,
        decide_true, Bool.true_and, Nat.add_sub_cancel' hi]
    · simp only [Nat.testBit_and, Nat.testBit_shiftLeft, hi, decide_false, Bool.false_and,
        Bool.and_false]
  have hsmall : x >>> k < 2 ^ m := by
    rw [Nat.shiftRight_eq_div_pow, Nat.div_lt_iff_lt_mul (Nat.two_pow_pos k), ← Nat.pow_add,
      Nat.add_comm]
    exact hx
  rw [hshift, Nat.and_two_pow_sub_one_of_lt_two_pow hsmall]

theorem toNat_align16 (n : UInt32) : (align16 n).toNat = n.toNat / 16 * 16 := by
  have h := land_high_mask (k := 4) (m := 28) n.toNat_lt
  simpa [align16] using h

theorem toNat_eyeWidth (staging : StagingConfig) :
    (eyeWidth staging).toNat = staging.width.toNat / 2 / 16 * 16 := by
  simp [eyeWidth, toNat_align16]

theorem toNat_eyeHeight (staging : StagingConfig) :
    (eyeHeight staging).toNat = staging.height.toNat / 16 * 16 :=
  toNat_align16 staging.height

/-! ## What a configured encoder is -/

/-- A component that opened is empty. -/
theorem openComponent_true {params : AmfEncodeParams} {create : VideoCodec → Bool}
    (h : (AmfStreamEncoder.openComponent params create).2 = true) :
    (AmfStreamEncoder.openComponent params create).1.component = some [] := by
  unfold AmfStreamEncoder.openComponent at h ⊢
  split_ifs at h ⊢ <;> simp_all

/-- An accepted `configure` leaves the announced ring open, both components empty
and the eye geometry of the ring. -/
theorem configure_true {e : AmfVideoEncoder} {machine : Machine} {staging : StagingConfig}
    {config : EncoderConfig} (h : (e.configure machine staging config).2 = true) :
    let e' := (e.configure machine staging config).1
    e'.ready = true ∧ e'.left.component = some [] ∧ e'.right.component = some [] ∧
      e'.info.width = eyeWidth staging ∧ e'.info.height = eyeHeight staging ∧
      e'.stage.generation = staging.generation ∧ plausibleGeometry staging = true := by
  -- Every refusing branch answers `false`
  have hfmt : amfSurfaceFormatForDxgi staging.dxgiFormat ≠ .unknown := by
    intro hno
    simp [configure, hno] at h
  have hdim : ¬ (eyeWidth staging = 0 ∨ eyeHeight staging = 0) := by
    intro hno
    simp [configure, hfmt, hno] at h
  have hdev : machine.createDevice = true := by
    by_contra hno
    simp [configure, hno] at h
  simp only [configure, if_neg hfmt, if_neg hdim, if_neg (not_not.mpr hdev)] at h ⊢
  cases hopen : D3D11Stage.openRing { e.shutdown.stage with device := true } staging
      machine.device1 machine.openProcess machine.slots with
  | mk stage opened =>
    cases opened with
    | false => simp [hopen] at h
    | true =>
      obtain ⟨hgeometry, -, hgen⟩ := openRing_true hopen
      simp only [hopen] at h ⊢
      split_ifs at h ⊢ with hctx hopened hcodec
      rw [not_or, not_not, not_not] at hopened
      exact ⟨rfl, openComponent_true hopened.1, openComponent_true hopened.2, rfl, rfl, hgen,
        hgeometry⟩

/-! ## The source rectangles -/

/-- The rectangle copied for eye `i` is right for a ring `width` columns wide:
it lies in that eye's half, starts at its left edge, is 16-aligned and leaves out
at most 15 columns and 15 rows. -/
structure FromOwnHalf (staging : StagingConfig) (i : ℕ) (box : Box) : Prop where
  left_inside : i * (staging.width.toNat / 2) ≤ box.left.toNat
  right_inside : box.right.toNat ≤ (i + 1) * (staging.width.toNat / 2)
  bottom_inside : box.bottom.toNat ≤ staging.height.toNat
  left_edge : box.left.toNat = i * (staging.width.toNat / 2)
  top_edge : box.top.toNat = 0
  width_aligned : 16 ∣ box.right.toNat - box.left.toNat
  height_aligned : 16 ∣ box.bottom.toNat - box.top.toNat
  columns_kept : staging.width.toNat / 2 - (box.right.toNat - box.left.toNat) ≤ 15
  rows_kept : staging.height.toNat - (box.bottom.toNat - box.top.toNat) ≤ 15

/-- Both eyes are copied from their own halves. -/
def EyesFromOwnHalf (staging : StagingConfig) (info : EncoderStreamInfo) : Prop :=
  FromOwnHalf staging 0 (sourceBox info 0) ∧ FromOwnHalf staging 1 (sourceBox info 1)

/-- The corners of the two source boxes, as numbers. -/
theorem sourceBox_corners {staging : StagingConfig} {info : EncoderStreamInfo}
    (hwidth : info.width = eyeWidth staging) :
    (sourceBox info 0).left.toNat = 0 ∧
      (sourceBox info 0).right.toNat = staging.width.toNat / 2 / 16 * 16 ∧
      (sourceBox info 1).left.toNat = staging.width.toNat / 2 / 16 * 16 ∧
      (sourceBox info 1).right.toNat = 2 * (staging.width.toNat / 2 / 16 * 16) := by
  have hlt := staging.width.toNat_lt
  have heye := toNat_eyeWidth staging
  refine ⟨by simp [sourceBox, copyRegion], ?_, ?_, ?_⟩
  · simp [sourceBox, copyRegion, hwidth, heye]
  · simp [sourceBox, copyRegion, hwidth, heye]
  · simp only [sourceBox, copyRegion, hwidth, UInt32.one_mul, UInt32.toNat_add, heye]
    omega

/-- For every ring the shim can announce and the helper accepts: the eyes are
encoded from their own halves exactly when the eye width is a multiple of 16. -/
theorem eyes_from_own_half_iff {e : AmfVideoEncoder} {machine : Machine}
    {staging : StagingConfig} {config : EncoderConfig} {w : ℕ}
    (hring : staging.width.toNat = 2 * w)
    (haccepted : (e.configure machine staging config).2 = true) :
    EyesFromOwnHalf staging (e.configure machine staging config).1.info ↔ 16 ∣ w := by
  obtain ⟨-, -, -, hwidth, hheight, -, -⟩ := configure_true haccepted
  obtain ⟨hl0, hr0, hl1, hr1⟩ := sourceBox_corners hwidth
  have hbottom : ∀ i,
      (sourceBox (e.configure machine staging config).1.info i).bottom.toNat =
        staging.height.toNat / 16 * 16 := by
    intro i
    simp [sourceBox, copyRegion, hheight, toNat_eyeHeight]
  have htop : ∀ i, (sourceBox (e.configure machine staging config).1.info i).top.toNat = 0 := by
    intro i
    simp [sourceBox, copyRegion]
  constructor
  · rintro ⟨-, hright⟩
    -- The right eye starts at the aligned width, and its half at `w`
    have hedge := hright.left_edge
    rw [hl1, hring] at hedge
    omega
  · intro hw
    constructor
    · constructor <;> simp only [hl0, hr0, hbottom, htop, hring] <;> omega
    · constructor <;> simp only [hl1, hr1, hbottom, htop, hring] <;> omega

/-- A 1184-wide eye: the ring is accepted and both eyes are their own. -/
theorem eyes_from_own_half_1184 :
    EyesFromOwnHalf ⟨1, 2368, 1188, 28, 3, [1, 2, 3]⟩
      ((configure {} (.good ⟨1, 2368, 1188, 28, 3, [1, 2, 3]⟩)
        ⟨1, 2368, 1188, 28, 3, [1, 2, 3]⟩ {}).1.info) :=
  (eyes_from_own_half_iff (w := 1184) (by decide) (by decide)).mpr (by decide)

/-- An 1188-wide eye: the ring is accepted, and the right eye's picture starts
with the last four columns of the left one. -/
theorem right_eye_starts_in_left_half :
    ¬ ∀ (staging : StagingConfig) (machine : Machine) (config : EncoderConfig) (w : ℕ),
      1 ≤ w → staging.width.toNat = 2 * w → (configure {} machine staging config).2 = true →
      EyesFromOwnHalf staging (configure {} machine staging config).1.info := by
  intro h
  have hown := (h ⟨1, 2376, 1188, 28, 3, [1, 2, 3]⟩ (.good ⟨1, 2376, 1188, 28, 3, [1, 2, 3]⟩) {}
    1188 (by decide) (by decide) (by decide)).2.left_edge
  revert hown
  decide

end WivrnNx.AmfVideoEncoder
