import WivrnNx.Lib.Numerals
import WivrnNx.Shim.EyeLayout
import WivrnNx.Staging.System

/-!
# What the shim copies of the two eyes

`DirectModeComponent::transport_frame_locked` (shim/src/direct_mode.cpp) up to the two
`CopySubresourceRegion`: the bounds that the compositor gave for each eye become a rectangle of
texels (`rectFromBounds`), the right eye's is clamped to the left one's, and a ring of twice that
width is there or is created. Between two calls into the ring the IPC thread may make its own.

- `rectFromBounds_exact`: the rectangle is what unbounded integers would give;
- `copies_in_bounds`: the copies stay inside their textures and off each other.
-/

namespace WivrnNx.Shim

open Ipc
open scoped Numerals
open Staging.System (maxRingAttempts stagingSlots)

/-! ## Texels -/

/-- A normalised coordinate. -/
abbrev Normalised := Set.Icc (0 : ℚ) 1

/-- `clamp01`: every comparison with a NaN is false, so that it becomes `0`. -/
def clamp01 : Flt → Normalised
  | .val q =>
    if hone : 1 < q then ⟨1, zero_le_one, le_rfl⟩
    else if hzero : 0 < q then ⟨q, hzero.le, not_lt.mp hone⟩
    else ⟨0, le_rfl, zero_le_one⟩
  | .posInf => ⟨1, zero_le_one, le_rfl⟩
  | .negInf | .nan => ⟨0, le_rfl, zero_le_one⟩

/-- `to_texels`. The product of a `float` and a texture's size is exact in a `double`; where the
sum with `0.5` is not, the product is so small that the sum is below `1` either way. -/
def toTexels (normalised : Normalised) (extent : UInt32) : UInt32 :=
  let texel := normalised.1 * extent.toNat
  if ¬ 0 < texel then 0
  else
    let rounded := UInt32.ofNat ⌊texel + 1 / 2⌋.toNat
    if extent < rounded then extent else rounded

/-- `vr::VRTextureBounds_t`. -/
structure TextureBounds where
  uMin : Flt
  vMin : Flt
  uMax : Flt
  vMax : Flt
deriving DecidableEq, Repr

/-- The corners of the bounds, the right way round. -/
def TextureBounds.u0 (b : TextureBounds) : Normalised := min (clamp01 b.uMin) (clamp01 b.uMax)
def TextureBounds.u1 (b : TextureBounds) : Normalised := max (clamp01 b.uMin) (clamp01 b.uMax)
def TextureBounds.v0 (b : TextureBounds) : Normalised := min (clamp01 b.vMin) (clamp01 b.vMax)
def TextureBounds.v1 (b : TextureBounds) : Normalised := max (clamp01 b.vMin) (clamp01 b.vMax)

/-- `kEpsilon`. -/
def boundsEpsilon : ℚ := 1 / 4096

/-- What `rect_from_bounds` returns, its two flags included. -/
structure BoundsRect where
  rect : SubRect
  isPartial : Bool
  flipped : Bool
deriving DecidableEq, Repr

/-- `rect_from_bounds`. -/
def rectFromBounds (b : TextureBounds) (textureWidth textureHeight : UInt32) : BoundsRect :=
  let x := toTexels b.u0 textureWidth
  let y := toTexels b.v0 textureHeight
  let x1 := toTexels b.u1 textureWidth
  let y1 := toTexels b.v1 textureHeight
  { rect :=
      { x := x, y := y, w := if x < x1 then x1 - x else 0, h := if y < y1 then y1 - y else 0 }
    isPartial :=
      boundsEpsilon < b.u0.1 || boundsEpsilon < b.v0.1 || b.u1.1 < 1 - boundsEpsilon ||
        b.v1.1 < 1 - boundsEpsilon
    flipped := Flt.lt b.vMax b.vMin || Flt.lt b.uMax b.uMin }

/-! ## The frame -/

/-- The description of a submitted eye texture. -/
structure EyeTexture where
  width : UInt32
  height : UInt32
  format : ℕ
  sampleCount : UInt32
deriving DecidableEq, Repr

/-- `staging_format_for`: a typeless format becomes one of its typed members. -/
def stagingFormatFor (submitted : ℕ) : ℕ :=
  match submitted with
  -- `DXGI_FORMAT_R8G8B8A8_TYPELESS`, `_UNORM`
  | 27 => 28
  -- `DXGI_FORMAT_B8G8R8A8_TYPELESS`, `_UNORM`
  | 90 => 87
  -- `DXGI_FORMAT_B8G8R8X8_TYPELESS`, `_UNORM`
  | 92 => 88
  -- `DXGI_FORMAT_R10G10B10A2_TYPELESS`, `_UNORM`
  | 23 => 24
  -- `DXGI_FORMAT_R16G16B16A16_TYPELESS`, `_FLOAT`
  | 9 => 10
  | other => other

/-- Why a frame is not transported. -/
inductive Drop
  /-- No helper is connected. -/
  | noHelper
  /-- "no D3D device" -/
  | noDevice
  /-- "submitted texture is not one of ours" -/
  | notOurs
  /-- "multisampled eye texture" -/
  | multisampled
  /-- "eye formats differ" -/
  | formatsDiffer
  /-- "empty layer bounds" -/
  | emptyBounds
  /-- "staging ring could not be created" -/
  | ringAttempts
  /-- "staging ring creation failed" -/
  | ringCreation
  /-- "all staging slots busy" -/
  | slotsBusy
deriving DecidableEq, Repr

/-- What the IPC thread does to the ring. -/
inductive IpcCall
  | frameDone (done : FrameDone)
  | markStale
deriving DecidableEq, Repr

/-- What the two eyes of a frame are, and what becomes of the calls for it. -/
structure TransportCalls where
  connected : Bool := true
  /-- `ensure_device_locked`. -/
  device : Bool := true
  /-- `find_texture_locked`, and what `GetDesc` says of the texture. -/
  eyes : Fin 2 → Option EyeTexture
  bounds : Fin 2 → TextureBounds
  d3d : ℕ → SlotCreate
  sync : ℕ → Bool
  /-- What the IPC thread does before each of the three calls into the ring. -/
  beforeMatch : List IpcCall := []
  beforeCreate : List IpcCall := []
  beforeAcquire : List IpcCall := []

/-- What the Present thread keeps for the transport. -/
structure Transport where
  ring : FrameStagingRing := {}
  ringAttempts : ℕ := 0

/-- The copies that are made, and the slot they are made into. -/
structure EyeCopies where
  rect : Fin 2 → SubRect
  eyeWidth : UInt32
  slot : ℕ
deriving DecidableEq

/-- `D3D11_BOX`: the part of its texture that an eye is copied from. -/
def sourceBox (rect : SubRect) : D3D11Stage.Box :=
  { left := rect.x, top := rect.y, right := rect.x + rect.w, bottom := rect.y + rect.h }

/-! ## The transport -/

/-- What the IPC thread does to the ring between two looks at it. -/
def ipcCalls (ring : FrameStagingRing) (calls : List IpcCall) : FrameStagingRing :=
  calls.foldl (fun ring call =>
    match call with
    | .frameDone done => (ring.onFrameDone done).1
    | .markStale => ring.markStale) ring

/-- `transport_frame_locked` up to the clamp: the two rectangles and the ring's format. -/
def eyeRects (c : TransportCalls) : Except Drop (SubRect × SubRect × ℕ) :=
  if c.connected = false then .error .noHelper
  else if c.device = false then .error .noDevice
  else
    match c.eyes 0, c.eyes 1 with
    | some left, some right =>
      if 1 < left.sampleCount ∨ 1 < right.sampleCount then .error .multisampled
      else if left.format ≠ right.format then .error .formatsDiffer
      else
        let rect0 := (rectFromBounds (c.bounds 0) left.width left.height).rect
        let rect1 := (rectFromBounds (c.bounds 1) right.width right.height).rect
        if rect0.w = 0 ∨ rect0.h = 0 ∨ rect1.w = 0 ∨ rect1.h = 0 then .error .emptyBounds
        else .ok (rect0, rect1, stagingFormatFor left.format)
    | _, _ => .error .notOurs

/-- The part about the ring: one of the geometry asked for is there, or is created. -/
def ensureRing (s : Transport) (c : TransportCalls) (width height : UInt32) (format : ℕ) :
    Transport × Except Drop Unit :=
  let ring := ipcCalls s.ring c.beforeMatch
  if ring.matchesGeometry width height format then ({ s with ring := ring }, .ok ())
  else if maxRingAttempts ≤ s.ringAttempts then ({ s with ring := ring }, .error .ringAttempts)
  else
    match (ipcCalls ring c.beforeCreate).create true width height format stagingSlots c.d3d with
    | (ring, false) =>
      ({ ring := ring, ringAttempts := s.ringAttempts + 1 }, .error .ringCreation)
    | (ring, true) => ({ ring := ring, ringAttempts := 0 }, .ok ())

/-- `transport_frame_locked` up to the copies. -/
def transportFrame (s : Transport) (c : TransportCalls) : Transport × Except Drop EyeCopies :=
  match eyeRects c with
  | .error drop => (s, .error drop)
  | .ok (rect0, rect1, format) =>
    let (left, right) := clampRects rect0 rect1
    match ensureRing s c (stagingWidth left.w) left.h format with
    | (s, .error drop) => (s, .error drop)
    | (s, .ok ()) =>
      match (ipcCalls s.ring c.beforeAcquire).acquireSlot c.sync with
      | (ring, none) => ({ s with ring := ring }, .error .slotsBusy)
      | (ring, some slot) =>
        ({ s with ring := ring }, .ok { rect := ![left, right], eyeWidth := left.w, slot := slot })

/-! ## Unbounded texels -/

/-- The texel a coordinate is rounded to, of a texture of any size. -/
def exactTexels (normalised : Normalised) (extent : ℕ) : ℕ :=
  min ⌊normalised.1 * extent + 1 / 2⌋.toNat extent

/-- A side of the rectangle of the bounds, of a texture of any size. -/
def exactSide (lo hi : Normalised) (extent : ℕ) : ℕ :=
  exactTexels hi extent - exactTexels lo extent

/-- The largest texture that D3D11 has. -/
def maxTextureSize : ℕ := 16384

theorem toNat_toTexels (normalised : Normalised) {extent : UInt32}
    (hextent : extent.toNat ≤ maxTextureSize) :
    (toTexels normalised extent).toNat = exactTexels normalised extent.toNat := by
  obtain ⟨q, hlow, hhigh⟩ := normalised
  have hle : q * extent.toNat ≤ extent.toNat := mul_le_of_le_one_left (Nat.cast_nonneg _) hhigh
  unfold toTexels exactTexels
  dsimp only
  split
  · rename_i hnot
    have hzero : q * extent.toNat = 0 :=
      le_antisymm (not_lt.mp hnot) (mul_nonneg hlow (Nat.cast_nonneg _))
    have hhalf : ⌊(0 : ℚ) + 1 / 2⌋ = 0 := by norm_num
    rw [hzero, hhalf]
    simp
  · -- The sum is not far above the size, so that the conversion is in range
    have hfloor : ⌊q * extent.toNat + 1 / 2⌋ ≤ (extent.toNat : ℤ) := by
      rw [← Int.lt_add_one_iff, Int.floor_lt]
      push_cast
      linarith
    have hrange : ⌊q * extent.toNat + 1 / 2⌋.toNat < 2 ^ 32 := by
      unfold maxTextureSize at hextent
      omega
    have hrounded := UInt32.toNat_ofNat_of_lt' hrange
    split
    · rename_i hlt
      rw [UInt32.lt_iff_toNat_lt, hrounded] at hlt
      omega
    · rename_i hlt
      rw [UInt32.lt_iff_toNat_lt, hrounded] at hlt
      rw [hrounded]
      omega

theorem toNat_side {lo hi : Normalised} {extent : UInt32}
    (hextent : extent.toNat ≤ maxTextureSize) :
    (if toTexels lo extent < toTexels hi extent then toTexels hi extent - toTexels lo extent
      else 0).toNat = exactSide lo hi extent.toNat := by
  rw [exactSide, ← toNat_toTexels hi hextent, ← toNat_toTexels lo hextent]
  split
  · rename_i hlt
    exact UInt32.toNat_sub_of_le _ _ (UInt32.le_of_lt hlt)
  · rename_i hlt
    rw [UInt32.lt_iff_toNat_lt] at hlt
    simp
    omega

/-- The rectangle of the bounds, of a texture of any size. -/
structure ExactRect (b : TextureBounds) (tex : EyeTexture) (rect : SubRect) : Prop where
  x : rect.x.toNat = exactTexels b.u0 tex.width.toNat
  y : rect.y.toNat = exactTexels b.v0 tex.height.toNat
  w : rect.w.toNat = exactSide b.u0 b.u1 tex.width.toNat
  h : rect.h.toNat = exactSide b.v0 b.v1 tex.height.toNat

/-- The size that D3D11 lets a texture have. -/
def EyeTexture.Sized (tex : EyeTexture) : Prop :=
  tex.width.toNat ≤ maxTextureSize ∧ tex.height.toNat ≤ maxTextureSize

theorem rectFromBounds_exact (b : TextureBounds) {tex : EyeTexture} (hsized : tex.Sized) :
    ExactRect b tex (rectFromBounds b tex.width tex.height).rect :=
  ⟨toNat_toTexels _ hsized.1, toNat_toTexels _ hsized.2, toNat_side hsized.1,
    toNat_side hsized.2⟩

theorem exactTexels_le (normalised : Normalised) (extent : ℕ) :
    exactTexels normalised extent ≤ extent := min_le_right _ _

/-- A side that is not empty ends inside the texture. -/
theorem exactSide_end {lo hi : Normalised} {extent : ℕ} (hside : exactSide lo hi extent ≠ 0) :
    exactTexels lo extent + exactSide lo hi extent = exactTexels hi extent := by
  unfold exactSide at hside ⊢
  omega

/-! ## The ring's geometry -/

/-- What the IPC thread does leaves the geometry. -/
theorem ipcCalls_geometry (ring : FrameStagingRing) (calls : List IpcCall) :
    (ipcCalls ring calls).width = ring.width ∧ (ipcCalls ring calls).height = ring.height := by
  induction calls generalizing ring with
  -- Neither an answer nor a lost helper resizes the ring
  | nil => exact ⟨rfl, rfl⟩
  | cons call calls ih =>
    rw [ipcCalls, List.foldl_cons]
    cases call with
    | frameDone done =>
      have hdone : (ring.onFrameDone done).1.width = ring.width ∧
          (ring.onFrameDone done).1.height = ring.height := by
        rcases ring.onFrameDone_cases done with h | ⟨-, -, -, h⟩ <;> rw [h] <;> exact ⟨rfl, rfl⟩
      obtain ⟨hw, hh⟩ := ih (ring.onFrameDone done).1
      exact ⟨hw.trans hdone.1, hh.trans hdone.2⟩
    | markStale =>
      have hstale : ring.markStale.width = ring.width ∧ ring.markStale.height = ring.height := by
        unfold FrameStagingRing.markStale
        split <;> exact ⟨rfl, rfl⟩
      obtain ⟨hw, hh⟩ := ih ring.markStale
      exact ⟨hw.trans hstale.1, hh.trans hstale.2⟩

/-- The ring that is there afterwards is of the geometry that was asked for. -/
theorem ensureRing_geometry {s s' : Transport} {c : TransportCalls} {width height : UInt32}
    {format : ℕ} (h : ensureRing s c width height format = (s', .ok ())) :
    s'.ring.width = width ∧ s'.ring.height = height := by
  simp only [ensureRing] at h
  split at h
  · rename_i hmatches
    cases h
    simp only [FrameStagingRing.matchesGeometry, decide_eq_true_eq] at hmatches
    exact ⟨hmatches.2.1, hmatches.2.2.1⟩
  · split at h
    · cases h
    · split at h
      · cases h
      · rename_i ring hcreate
        cases h
        simp only [FrameStagingRing.create] at hcreate
        split at hcreate
        · cases hcreate
        · split at hcreate <;> cases hcreate
          exact ⟨rfl, rfl⟩

/-- What is announced of a ring is its geometry. -/
theorem describe_geometry (ring : FrameStagingRing) (hcount : ring.count ≠ 0) :
    ∃ config, ring.describe = some config ∧ config.width = ring.width ∧
      config.height = ring.height :=
  ⟨_, if_neg hcount, rfl, rfl⟩

/-! ## The copies -/

/-- What the checks leave: two textures of ours, and a rectangle of each that is not empty. -/
theorem eyeRects_ok {c : TransportCalls} {rect0 rect1 : SubRect} {format : ℕ}
    (h : eyeRects c = .ok (rect0, rect1, format)) :
    ∃ left right, c.eyes 0 = some left ∧ c.eyes 1 = some right ∧
      rect0 = (rectFromBounds (c.bounds 0) left.width left.height).rect ∧
      rect1 = (rectFromBounds (c.bounds 1) right.width right.height).rect ∧
      rect0.w ≠ 0 ∧ rect0.h ≠ 0 ∧ rect1.w ≠ 0 ∧ rect1.h ≠ 0 := by
  unfold eyeRects at h
  split at h
  · cases h
  · split at h
    · cases h
    · split at h
      · rename_i left right hleft hright
        dsimp only at h
        split at h
        · cases h
        · split at h
          · cases h
          · split at h
            · cases h
            · rename_i hempty
              cases h
              rw [not_or, not_or, not_or] at hempty
              exact ⟨left, right, hleft, hright, rfl, rfl, hempty⟩
      · cases h

/-- The texels of a box. -/
def texels (box : D3D11Stage.Box) : Set (ℕ × ℕ) :=
  Set.Ico box.left.toNat box.right.toNat ×ˢ Set.Ico box.top.toNat box.bottom.toNat

/-- The texels of a texture. -/
def area (width height : UInt32) : Set (ℕ × ℕ) :=
  Set.Ico 0 width.toNat ×ˢ Set.Ico 0 height.toNat

/-- What one eye's copy is to be: `from` a part of its texture, `to` a part of the ring's. -/
structure CopyInBounds (tex : EyeTexture) (b : TextureBounds) (config : StagingConfig) (eye : ℕ)
    (eyeWidth eyeHeight : UInt32) (rect : SubRect) : Prop where
  source_nonempty : (texels (sourceBox rect)).Nonempty
  source_inside : texels (sourceBox rect) ⊆ area tex.width tex.height
  dest_inside : texels (destBox eye eyeWidth rect) ⊆ area config.width config.height
  /-- The rectangle is that of the bounds, clamped to the left eye's. -/
  x : rect.x.toNat = exactTexels b.u0 tex.width.toNat
  y : rect.y.toNat = exactTexels b.v0 tex.height.toNat
  w : rect.w.toNat = min (exactSide b.u0 b.u1 tex.width.toNat) eyeWidth.toNat
  h : rect.h.toNat = min (exactSide b.v0 b.v1 tex.height.toNat) eyeHeight.toNat
  /-- The sums of the two boxes do not wrap. -/
  source_right : (sourceBox rect).right.toNat = rect.x.toNat + rect.w.toNat
  source_bottom : (sourceBox rect).bottom.toNat = rect.y.toNat + rect.h.toNat
  dest_right : (destBox eye eyeWidth rect).right.toNat = eye * eyeWidth.toNat + rect.w.toNat

/-- What the two copies are to be. -/
structure CopiesInBounds (c : TransportCalls) (config : StagingConfig) (copies : EyeCopies) :
    Prop where
  eye : ∀ (eye : Fin 2) (tex : EyeTexture), c.eyes eye = some tex →
    CopyInBounds tex (c.bounds eye) config eye copies.eyeWidth (copies.rect 0).h (copies.rect eye)
  disjoint : texels (destBox 0 copies.eyeWidth (copies.rect 0)) ∩
    texels (destBox 1 copies.eyeWidth (copies.rect 1)) = ∅
  /-- The announced width does not wrap either. -/
  width : config.width.toNat = 2 * copies.eyeWidth.toNat

theorem toNat_ne_zero {n : UInt32} (h : n ≠ 0) : n.toNat ≠ 0 := by
  intro hzero
  exact h (UInt32.toNat_inj.mp hzero)

theorem toNat_min (a b : UInt32) : (min a b).toNat = min a.toNat b.toNat := by
  change (if a ≤ b then a else b).toNat = min a.toNat b.toNat
  split
  · rename_i hle
    exact (min_eq_left (UInt32.le_iff_toNat_le.mp hle)).symm
  · rename_i hgt
    rw [UInt32.le_iff_toNat_le, not_le] at hgt
    exact (min_eq_right hgt.le).symm

/-- The announced width does not wrap. -/
theorem toNat_stagingWidth {eyeWidth : UInt32} (hsmall : eyeWidth.toNat ≤ maxTextureSize) :
    (stagingWidth eyeWidth).toNat = 2 * eyeWidth.toNat := by
  unfold maxTextureSize at hsmall
  rw [stagingWidth, UInt32.toNat_mul]
  change eyeWidth.toNat * 2 % 2 ^ 32 = _
  omega

/-- One eye's copy, from what the checks leave of its rectangle. -/
theorem CopyInBounds.of_clamped {tex : EyeTexture} {b : TextureBounds} {config : StagingConfig}
    {eye : ℕ} {eyeWidth eyeHeight : UInt32} {rect clamped : SubRect} (heye : eye < 2)
    (hsized : tex.Sized) (hexact : ExactRect b tex rect) (hw : rect.w ≠ 0) (hh : rect.h ≠ 0)
    (hx : clamped.x = rect.x) (hy : clamped.y = rect.y)
    (hcw : clamped.w.toNat = min rect.w.toNat eyeWidth.toNat)
    (hch : clamped.h.toNat = min rect.h.toNat eyeHeight.toNat)
    (hwidth : config.width.toNat = 2 * eyeWidth.toNat)
    (hheight : config.height = eyeHeight)
    (heyeWidth : eyeWidth ≠ 0) (heyeHeight : eyeHeight ≠ 0)
    (hsmall : eyeWidth.toNat ≤ maxTextureSize) :
    CopyInBounds tex b config eye eyeWidth eyeHeight clamped := by
  obtain ⟨hrx, hry, hrw, hrh⟩ := hexact
  have hw0 := toNat_ne_zero hw
  have hh0 := toNat_ne_zero hh
  have hew0 := toNat_ne_zero heyeWidth
  have heh0 := toNat_ne_zero heyeHeight
  -- The unclamped rectangle ends inside the texture, and the clamped one inside that
  have hendx := exactSide_end (hrw ▸ hw0)
  have hendy := exactSide_end (hrh ▸ hh0)
  have hinx := exactTexels_le b.u1 tex.width.toNat
  have hiny := exactTexels_le b.v1 tex.height.toNat
  obtain ⟨hsw, hsh⟩ := hsized
  unfold maxTextureSize at hsw hsh hsmall
  have hright : (sourceBox clamped).right.toNat = clamped.x.toNat + clamped.w.toNat := by
    rw [sourceBox, UInt32.toNat_add, hx]
    omega
  have hbottom : (sourceBox clamped).bottom.toNat = clamped.y.toNat + clamped.h.toNat := by
    rw [sourceBox, UInt32.toNat_add, hy]
    omega
  have hleft : (destBox eye eyeWidth clamped).left.toNat = eye * eyeWidth.toNat := by
    interval_cases eye <;> simp [destBox, dstX]
  have hdest : (destBox eye eyeWidth clamped).right.toNat =
      eye * eyeWidth.toNat + clamped.w.toNat := by
    interval_cases eye
    · simp [destBox, dstX]
    · simp only [destBox, dstX, if_neg Nat.one_ne_zero, UInt32.toNat_add]
      omega
  have hend : eye * eyeWidth.toNat + clamped.w.toNat ≤ config.width.toNat := by
    rw [hwidth]
    interval_cases eye <;> omega
  refine ⟨⟨(clamped.x.toNat, clamped.y.toNat), ?_⟩, ?_, ?_, hx ▸ hrx, hy ▸ hry, ?_, ?_, hright,
    hbottom, hdest⟩
  · simp only [texels, Set.mem_prod, Set.mem_Ico, hright, hbottom]
    simp only [sourceBox]
    omega
  · refine Set.prod_mono (Set.Ico_subset_Ico (Nat.zero_le _) ?_)
      (Set.Ico_subset_Ico (Nat.zero_le _) ?_)
    · rw [hright, hx]
      omega
    · rw [hbottom, hy]
      omega
  · refine Set.prod_mono (Set.Ico_subset_Ico (Nat.zero_le _) ?_)
      (Set.Ico_subset_Ico (Nat.zero_le _) ?_)
    · rw [hdest]
      exact hend
    · rw [hheight]
      change clamped.h.toNat ≤ _
      omega
  · rw [hcw, hrw]
  · rw [hch, hrh]

/-- The two halves do not meet. -/
theorem disjoint_halves {eyeWidth : UInt32} {left right : SubRect} (hleft : left.w = eyeWidth) :
    texels (destBox 0 eyeWidth left) ∩ texels (destBox 1 eyeWidth right) = ∅ := by
  refine Set.eq_empty_of_forall_notMem ?_
  rintro ⟨x, y⟩ ⟨⟨⟨-, hlt⟩, -⟩, ⟨hge, -⟩, -⟩
  simp [destBox, dstX, hleft] at hlt hge
  omega

/-- Whatever the bounds are, whatever the IPC thread does, and whatever ring there was: a frame
that reaches its copies has them inside the two eye textures and inside the announced one. -/
theorem copies_in_bounds {s s' : Transport} {c : TransportCalls} {copies : EyeCopies}
    (hsized : ∀ eye tex, c.eyes eye = some tex → tex.Sized)
    (h : transportFrame s c = (s', .ok copies)) :
    ∃ config, s'.ring.describe = some config ∧ CopiesInBounds c config copies := by
  simp only [transportFrame] at h
  split at h
  · cases h
  · rename_i rect0 rect1 format hrects
    split at h
    · cases h
    · rename_i between hensure
      split at h
      · cases h
      · rename_i ring slot hacquire
        cases h
        obtain ⟨left, right, hleft, hright, rfl, rfl, hw0, hh0, hw1, hh1⟩ := eyeRects_ok hrects
        have hexact0 := rectFromBounds_exact (c.bounds 0) (hsized 0 left hleft)
        have hexact1 := rectFromBounds_exact (c.bounds 1) (hsized 1 right hright)
        obtain ⟨hrw, hrh⟩ := ensureRing_geometry hensure
        obtain ⟨hslot, -, -, rfl⟩ := FrameStagingRing.acquireSlot_some hacquire
        obtain ⟨hiw, hih⟩ := ipcCalls_geometry between.ring c.beforeAcquire
        generalize ipcCalls between.ring c.beforeAcquire = ring at hslot hiw hih ⊢
        obtain ⟨config, hconfig, hcw, hch⟩ := describe_geometry
          { ring.setSlot slot { ring.slots slot with leased := true } with
            next := (slot + 1) % ring.count } (Nat.ne_zero_of_lt hslot)
        -- What is announced is the width and the height that the left eye asked for
        have hsmall : (rectFromBounds (c.bounds 0) left.width left.height).rect.w.toNat ≤
            maxTextureSize := by
          have hle := exactTexels_le (c.bounds 0).u1 left.width.toNat
          have hsize := (hsized 0 left hleft).1
          rw [hexact0.w, exactSide]
          omega
        have hwidth : config.width.toNat =
            2 * (rectFromBounds (c.bounds 0) left.width left.height).rect.w.toNat := by
          rw [hcw.trans (hiw.trans hrw)]
          exact toNat_stagingWidth hsmall
        have hheight := hch.trans (hih.trans hrh)
        refine ⟨config, hconfig, ⟨?_, disjoint_halves rfl, hwidth⟩⟩
        intro eye tex htex
        match eye, htex with
        | 0, htex =>
          rw [hleft] at htex
          cases htex
          exact .of_clamped (by decide) (hsized 0 _ hleft) hexact0 hw0 hh0 rfl rfl
            (min_self _).symm (min_self _).symm hwidth hheight hw0 hh0 hsmall
        | 1, htex =>
          rw [hright] at htex
          cases htex
          exact .of_clamped (by decide) (hsized 1 _ hright) hexact1 hw1 hh1 rfl rfl
            (toNat_min _ _) (toNat_min _ _) hwidth hheight hw0 hh0 hsmall

/-- Full bounds on the left, upside down and out of range ones with a NaN on the right, and no ring
yet. -/
def scaledFrame : TransportCalls where
  eyes := ![some ⟨100, 80, 28, 1⟩, some ⟨120, 90, 28, 1⟩]
  bounds := ![⟨.val 0, .val 0, .val 1, .val 1⟩, ⟨.nan, .posInf, .val (1 / 2), .val (1 / 3)⟩]
  d3d := fun i => { sharedHandle := some (i + 1) }
  sync := fun _ => true

/-- The right eye is copied from the rows below a third of its texture, 60 by 60 texels. -/
theorem copies_in_bounds_scaled :
    (transportFrame {} scaledFrame).2 =
        .ok { rect := ![⟨0, 0, 100, 80⟩, ⟨0, 30, 60, 60⟩], eyeWidth := 100, slot := 0 } ∧
      ∃ config, (transportFrame {} scaledFrame).1.ring.describe = some config ∧
        CopiesInBounds scaledFrame config
          { rect := ![⟨0, 0, 100, 80⟩, ⟨0, 30, 60, 60⟩], eyeWidth := 100, slot := 0 } := by
  have hrun : (transportFrame {} scaledFrame).2 =
      .ok { rect := ![⟨0, 0, 100, 80⟩, ⟨0, 30, 60, 60⟩], eyeWidth := 100, slot := 0 } := by
    decide +kernel
  refine ⟨hrun, copies_in_bounds ?_ (Prod.ext rfl hrun)⟩
  intro eye tex htex
  match eye, htex with
  | 0, htex =>
    cases htex
    exact ⟨by decide, by decide⟩
  | 1, htex =>
    cases htex
    exact ⟨by decide, by decide⟩

end WivrnNx.Shim
