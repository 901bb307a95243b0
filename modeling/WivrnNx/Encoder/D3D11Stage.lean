import WivrnNx.Ipc

/-!
# The helper's side of the staging ring

`D3D11Stage` (encoder/d3d11_stage.cpp): the ring of textures it opens out of
vrserver, and the acquire/release pair on their keyed mutexes. What Windows and
the driver answer is an argument of each function.
-/

namespace WivrnNx

open Ipc

/-- The description of an opened shared texture. -/
structure TextureDesc where
  width : UInt32
  height : UInt32
  format : ℕ
deriving DecidableEq, Repr

/-- What opening one slot's handle gave. -/
structure SlotOpen where
  duplicated : Bool := true
  /-- The texture, when `OpenSharedResource1` succeeded. -/
  desc : Option TextureDesc
  keyedMutex : Bool := true
deriving DecidableEq, Repr

/-- `D3D11Stage`. A slot is present when its texture and mutex are open; `held`
is the helper's own note that it acquired the mutex. -/
structure D3D11Stage where
  device : Bool := false
  /-- `slots_[0 .. slot_count_)`, each with its `held` flag. -/
  held : List Bool := []
  generation : ℕ := 0
  width : UInt32 := 0
  height : UInt32 := 0
  dxgiFormat : ℕ := 0
  acquireTimeouts : ℕ := 0
deriving DecidableEq, Repr

namespace D3D11Stage

/-- `kMaxSlots`. -/
def maxSlots : ℕ := 3

/-- Hands back what is still held and forgets the ring. -/
def closeRing (s : D3D11Stage) : D3D11Stage :=
  { s with held := [], generation := 0, width := 0, height := 0, dxgiFormat := 0 }

def destroyDevice (s : D3D11Stage) : D3D11Stage := { s with device := false }

/-- What `open_ring` asks of the announced geometry before it opens anything. -/
def plausibleGeometry (config : StagingConfig) : Bool :=
  config.count ≠ 0 ∧ config.count ≤ maxSlots ∧
    2 ≤ config.width ∧ 1 ≤ config.height ∧ config.width &&& 1 = 0

/-- One slot opens when the handle does and the texture is what the shim said. -/
def slotOpens (config : StagingConfig) (slot : SlotOpen) : Bool :=
  slot.duplicated ∧
    slot.desc = some ⟨config.width, config.height, config.dxgiFormat⟩ ∧ slot.keyedMutex

/-- `open_ring`: every slot or none. `device1` and `process` say whether the
`ID3D11Device1` interface and the vrserver process could be had. -/
def openRing (s : D3D11Stage) (config : StagingConfig) (device1 process : Bool)
    (slots : ℕ → SlotOpen) : D3D11Stage × Bool :=
  let s := s.closeRing
  if s.device ∧ plausibleGeometry config ∧ device1 ∧ process ∧
      (List.range config.count).all (fun i => slotOpens config (slots i)) then
    ({ s with held := List.replicate config.count false, generation := config.generation,
              width := config.width, height := config.height,
              dxgiFormat := config.dxgiFormat }, true)
  else (s, false)

/-- `acquire`: `sync` is whether `AcquireSync(1)` came through in time. -/
def acquire (s : D3D11Stage) (index : ℕ) (sync : Bool) : D3D11Stage × Bool :=
  match s.held[index]? with
  | none => (s, false)
  | some true => (s, false)
  | some false =>
    if sync then ({ s with held := s.held.set index true }, true)
    else ({ s with acquireTimeouts := s.acquireTimeouts + 1 }, false)

/-- `release`: key 0 hands the slot back to the shim. -/
def release (s : D3D11Stage) (index : ℕ) : D3D11Stage :=
  if s.held[index]? = some true then { s with held := s.held.set index false } else s

/-- A `D3D11_BOX` of one depth slice. -/
structure Box where
  left : UInt32
  top : UInt32
  right : UInt32
  bottom : UInt32
deriving DecidableEq, Repr

/-- The source box of `copy_region`. -/
def copyRegion (x width height : UInt32) : Box :=
  { left := x, top := 0, right := x + width, bottom := height }

/-- A slot is acquired only when it was open, not held, and the mutex came. -/
theorem acquire_true {s s' : D3D11Stage} {index : ℕ} {sync : Bool}
    (h : s.acquire index sync = (s', true)) :
    s.held[index]? = some false ∧ sync = true ∧
      s' = { s with held := s.held.set index true } := by
  unfold acquire at h
  split at h
  · simp at h
  · simp at h
  · split at h <;> simp_all

/-- A failed acquire holds nothing new. -/
theorem acquire_false {s s' : D3D11Stage} {index : ℕ} {sync : Bool}
    (h : s.acquire index sync = (s', false)) : s'.held = s.held ∧ s'.generation = s.generation := by
  unfold acquire at h
  split at h
  · simp_all
  · simp_all
  · split at h
    · simp at h
    · cases h
      exact ⟨rfl, rfl⟩

/-- An opened ring is the announced one, and its geometry was accepted. -/
theorem openRing_true {s s' : D3D11Stage} {config : StagingConfig} {device1 process : Bool}
    {slots : ℕ → SlotOpen} (h : s.openRing config device1 process slots = (s', true)) :
    plausibleGeometry config = true ∧ s'.held = List.replicate config.count false ∧
      s'.generation = config.generation := by
  simp only [openRing] at h
  split at h
  · rename_i hok
    cases h
    exact ⟨hok.2.1, rfl, rfl⟩
  · simp at h

end D3D11Stage

end WivrnNx
