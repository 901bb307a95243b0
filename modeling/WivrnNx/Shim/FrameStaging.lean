import WivrnNx.Ipc

/-!
# The shim's staging ring

`FrameStagingRing` (shim/src/frame_staging.cpp). Every member function holds the
ring's mutex throughout, so each is one step. What D3D answers is an argument:
which objects could be created, and which keyed mutexes came through. The keyed
mutexes themselves belong to the textures and are not part of the ring.

- `create` / `destroyLocked`: the ring and its generation;
- `acquireSlot`, `releaseToHelper`, `returnSlot`: the Present thread's lease;
- `onFrameDone`, `markStale`: the IPC thread's half.
-/

namespace WivrnNx

open Ipc

/-- `FrameStagingRing::Slot`. -/
structure Slot where
  texture : Bool := false
  mutex : Bool := false
  /-- The NT handle, valid in this process. -/
  handle : Option Handle := none
  helperOwned : Bool := false
  /-- The Present thread holds the keyed mutex. -/
  leased : Bool := false
  frameId : ℕ := 0
deriving DecidableEq, Repr

/-- What D3D answers while one slot is created. -/
structure SlotCreate where
  texture : Bool := true
  resource : Bool := true
  sharedHandle : Option Handle
  mutex : Bool := true
deriving DecidableEq, Repr

/-- `FrameStagingRing`. -/
structure FrameStagingRing where
  slots : ℕ → Slot := fun _ => {}
  count : ℕ := 0
  width : UInt32 := 0
  height : UInt32 := 0
  format : ℕ := 0
  generation : ℕ := 0
  stale : Bool := false
  /-- Round-robin start of `acquire_slot`. -/
  next : ℕ := 0

namespace FrameStagingRing

/-- `kMaxSlots`. -/
def maxSlots : ℕ := 3

/-- A ring exists and no disconnect has invalidated it. -/
def usable (r : FrameStagingRing) : Bool := r.count ≠ 0 ∧ r.stale = false

/-- `matches`: a usable ring already has this geometry. -/
def matchesGeometry (r : FrameStagingRing) (width height : UInt32) (format : ℕ) : Bool :=
  r.usable ∧ r.width = width ∧ r.height = height ∧ r.format = format

def setSlot (r : FrameStagingRing) (index : ℕ) (slot : Slot) : FrameStagingRing :=
  { r with slots := Function.update r.slots index slot }

/-! ## The ring -/

/-- `destroy_locked`: nothing of the ring stays but its generation. -/
def destroyLocked (r : FrameStagingRing) : FrameStagingRing :=
  { generation := r.generation }

/-- The body of `create`'s loop: the slot as far as it got. -/
def createSlot (slot : Slot) (d3d : SlotCreate) : Slot × Bool :=
  if ¬ d3d.texture then (slot, false)
  else if ¬ d3d.resource then ({ slot with texture := true }, false)
  else
    match d3d.sharedHandle with
    | none => ({ slot with texture := true }, false)
    | some handle =>
      if ¬ d3d.mutex then ({ slot with texture := true, handle := some handle }, false)
      else
        ({ slot with texture := true, handle := some handle, mutex := true
                     helperOwned := false, leased := false, frameId := 0 }, true)

/-- `create`'s loop over the first `n` slots, up to the first failure. -/
def createSlots (slots : ℕ → Slot) (d3d : ℕ → SlotCreate) : ℕ → (ℕ → Slot) × Bool
  | 0 => (slots, true)
  | n + 1 =>
    match createSlots slots d3d n with
    | (slots, false) => (slots, false)
    | (slots, true) =>
      let made := createSlot (slots n) (d3d n)
      (Function.update slots n made.1, made.2)

/-- The number of slots `create` makes of the one asked for. -/
def clampCount (count : ℕ) : ℕ := min (max count 1) maxSlots

/-- `create`: a new ring of the next generation, or none. -/
def create (r : FrameStagingRing) (device : Bool) (width height : UInt32) (format count : ℕ)
    (d3d : ℕ → SlotCreate) : FrameStagingRing × Bool :=
  if ¬ device ∨ width = 0 ∨ height = 0 then (r, false)
  else
    let r := r.destroyLocked
    match createSlots r.slots d3d (clampCount count) with
    | (slots, false) => ({ r with slots := slots }.destroyLocked, false)
    | (slots, true) =>
      ({ slots := slots, count := clampCount count, width := width, height := height,
         format := format, generation := r.generation + 1 }, true)

/-- `describe`: the `StagingConfig` of the current ring. -/
def describe (r : FrameStagingRing) : Option StagingConfig :=
  if r.count = 0 then none
  else some
    { generation := r.generation, width := r.width, height := r.height, dxgiFormat := r.format
      count := r.count
      handles := (List.range maxSlots).map fun i =>
        if i < r.count then (r.slots i).handle.getD 0 else 0 }

/-! ## The Present thread -/

/-- Whether `acquire_slot` takes slot `i`: `sync` says which keyed mutexes come
through, with key 0 or, reclaimed, with key 1. -/
def takes (r : FrameStagingRing) (sync : ℕ → Bool) (i : ℕ) : Bool :=
  !(r.slots i).helperOwned && !(r.slots i).leased && (r.slots i).mutex && (r.slots i).texture &&
    sync i

/-- The order in which `acquire_slot` looks at the slots. -/
def roundRobin (r : FrameStagingRing) : List ℕ :=
  (List.range r.count).map fun attempt => (r.next + attempt) % r.count

/-- `acquire_slot`: the first slot that can be had, if any. -/
def acquireSlot (r : FrameStagingRing) (sync : ℕ → Bool) : FrameStagingRing × Option ℕ :=
  if r.count = 0 ∨ r.stale then (r, none)
  else
    match r.roundRobin.find? (r.takes sync) with
    | none => (r, none)
    | some index =>
      ({ r.setSlot index { r.slots index with leased := true } with
          next := (index + 1) % r.count }, some index)

/-- The lease is for a slot of this ring that is leased. -/
def leaseValid (r : FrameStagingRing) (index : ℕ) : Bool :=
  index < r.count ∧ (r.slots index).leased ∧ (r.slots index).mutex

/-- `release_to_helper`: key 1, and the frame id the slot will be answered with. -/
def releaseToHelper (r : FrameStagingRing) (index frameId : ℕ) : FrameStagingRing :=
  if r.leaseValid index then
    r.setSlot index { r.slots index with leased := false, helperOwned := true, frameId := frameId }
  else r

/-- `return_slot`: key 0, the helper never sees it. -/
def returnSlot (r : FrameStagingRing) (index : ℕ) : FrameStagingRing :=
  if r.leaseValid index then
    r.setSlot index { r.slots index with leased := false, helperOwned := false, frameId := 0 }
  else r

/-! ## The IPC thread -/

/-- `on_frame_done`: frees the slot if it is still held for that very frame. -/
def onFrameDone (r : FrameStagingRing) (done : FrameDone) : FrameStagingRing × Bool :=
  if r.count = 0 ∨ r.count ≤ done.stagingIndex then (r, false)
  else if (r.slots done.stagingIndex).helperOwned = false then (r, false)
  else if (r.slots done.stagingIndex).frameId ≠ done.frameId then (r, false)
  else
    (r.setSlot done.stagingIndex
      { r.slots done.stagingIndex with helperOwned := false, frameId := 0 }, true)

/-- `mark_stale`. -/
def markStale (r : FrameStagingRing) : FrameStagingRing :=
  if r.count ≠ 0 ∧ r.stale = false then { r with stale := true } else r

/-! ## What the operations do -/

@[simp] theorem setSlot_count (r : FrameStagingRing) (i : ℕ) (slot : Slot) :
    (r.setSlot i slot).count = r.count := rfl

@[simp] theorem setSlot_generation (r : FrameStagingRing) (i : ℕ) (slot : Slot) :
    (r.setSlot i slot).generation = r.generation := rfl

@[simp] theorem setSlot_stale (r : FrameStagingRing) (i : ℕ) (slot : Slot) :
    (r.setSlot i slot).stale = r.stale := rfl

@[simp] theorem setSlot_self (r : FrameStagingRing) (i : ℕ) (slot : Slot) :
    (r.setSlot i slot).slots i = slot := Function.update_self ..

theorem setSlot_of_ne (r : FrameStagingRing) {i j : ℕ} (slot : Slot) (h : j ≠ i) :
    (r.setSlot i slot).slots j = r.slots j := Function.update_of_ne h ..

@[simp] theorem markStale_slots (r : FrameStagingRing) : r.markStale.slots = r.slots := by
  unfold markStale
  split <;> rfl

@[simp] theorem markStale_count (r : FrameStagingRing) : r.markStale.count = r.count := by
  unfold markStale
  split <;> rfl

@[simp] theorem markStale_generation (r : FrameStagingRing) :
    r.markStale.generation = r.generation := by
  unfold markStale
  split <;> rfl

/-- No ring is usable after `mark_stale`. -/
@[simp] theorem markStale_usable (r : FrameStagingRing) : r.markStale.usable = false := by
  unfold markStale usable
  split <;> simp_all

/-- A destroyed ring has no slot in use. -/
theorem destroyLocked_free (r : FrameStagingRing) (i : ℕ) :
    (r.destroyLocked.slots i).helperOwned = false ∧ (r.destroyLocked.slots i).leased = false :=
  ⟨rfl, rfl⟩

/-- However far the creation of a free slot gets, the slot stays free. -/
theorem createSlot_free {slot : Slot} (d3d : SlotCreate)
    (hfree : slot.helperOwned = false ∧ slot.leased = false) :
    (createSlot slot d3d).1.helperOwned = false ∧ (createSlot slot d3d).1.leased = false := by
  unfold createSlot
  split
  · exact hfree
  · split
    · exact hfree
    · split
      · exact hfree
      · split
        · exact hfree
        · exact ⟨rfl, rfl⟩

/-- A slot that was created carries the handle D3D gave it. -/
theorem createSlot_handle {slot : Slot} {d3d : SlotCreate} (h : (createSlot slot d3d).2 = true) :
    (createSlot slot d3d).1.handle = d3d.sharedHandle := by
  unfold createSlot at h ⊢
  split at h
  · cases h
  · split at h
    · cases h
    · split at h
      · cases h
      · rename_i handle hhandle
        split at h
        · cases h
        · simp_all

/-- The creation loop only ever leaves new, free slots behind itself. -/
theorem createSlots_free {slots : ℕ → Slot} (d3d : ℕ → SlotCreate)
    (hfree : ∀ i, (slots i).helperOwned = false ∧ (slots i).leased = false) (n : ℕ) :
    ∀ i, ((createSlots slots d3d n).1 i).helperOwned = false ∧
      ((createSlots slots d3d n).1 i).leased = false := by
  induction n with
  | zero => exact hfree
  | succ n ih =>
    intro i
    simp only [createSlots]
    split
    · rename_i slots' hn
      simpa [hn] using ih i
    · rename_i slots' hn
      rw [hn] at ih
      by_cases hi : i = n
      · subst hi
        simpa using createSlot_free (d3d i) (ih i)
      · simpa [Function.update_of_ne hi] using ih i

/-- The slots of a finished loop carry the handles D3D gave them. -/
theorem createSlots_handle {slots slots' : ℕ → Slot} {d3d : ℕ → SlotCreate} {n : ℕ}
    (h : createSlots slots d3d n = (slots', true)) :
    ∀ i < n, (slots' i).handle = (d3d i).sharedHandle := by
  induction n generalizing slots' with
  | zero => simp
  | succ n ih =>
    simp only [createSlots] at h
    split at h
    · cases h
    · rename_i before hn
      injection h with hslots hok
      subst hslots
      intro i hi
      by_cases hin : i = n
      · subst hin
        simpa using createSlot_handle hok
      · simpa [Function.update_of_ne hin] using ih hn i (by omega)

/-- A ring that was created is complete, free, and of the next generation. -/
theorem create_true {r r' : FrameStagingRing} {device : Bool} {width height : UInt32}
    {format count : ℕ} {d3d : ℕ → SlotCreate}
    (h : r.create device width height format count d3d = (r', true)) :
    r'.generation = r.generation + 1 ∧ r'.count = clampCount count ∧ r'.stale = false ∧
      (∀ i, (r'.slots i).helperOwned = false ∧ (r'.slots i).leased = false) ∧
      ∀ i < r'.count, (r'.slots i).handle = (d3d i).sharedHandle := by
  simp only [create] at h
  split at h
  · cases h
  · split at h
    · cases h
    · rename_i slots hslots
      cases h
      have hfree := createSlots_free d3d (fun i => r.destroyLocked_free i) (clampCount count)
      rw [hslots] at hfree
      exact ⟨rfl, rfl, rfl, hfree, createSlots_handle hslots⟩

/-- A failed `create` either refused to begin or left no ring behind. -/
theorem create_false {r r' : FrameStagingRing} {device : Bool} {width height : UInt32}
    {format count : ℕ} {d3d : ℕ → SlotCreate}
    (h : r.create device width height format count d3d = (r', false)) :
    r' = r ∨ r' = r.destroyLocked := by
  simp only [create] at h
  split at h
  · cases h
    exact .inl rfl
  · split at h
    · cases h
      exact .inr rfl
    · cases h

/-- A slot that `acquire_slot` hands out was the Present thread's to take. -/
theorem acquireSlot_some {r r' : FrameStagingRing} {sync : ℕ → Bool} {i : ℕ}
    (h : r.acquireSlot sync = (r', some i)) :
    i < r.count ∧ r.stale = false ∧ r.takes sync i = true ∧
      r' = { r.setSlot i { r.slots i with leased := true } with next := (i + 1) % r.count } := by
  simp only [acquireSlot] at h
  split at h
  · cases h
  · rename_i hlive
    push Not at hlive
    split at h
    · cases h
    · rename_i index hfind
      cases h
      have hmem := List.mem_of_find?_eq_some hfind
      simp only [roundRobin, List.mem_map, List.mem_range] at hmem
      rcases hmem with ⟨attempt, hattempt, hi⟩
      refine ⟨?_, by simpa using hlive.2, List.find?_some hfind, rfl⟩
      rw [← hi]
      exact Nat.mod_lt _ (by omega)

/-- A failed `acquire_slot` changes nothing. -/
theorem acquireSlot_none {r r' : FrameStagingRing} {sync : ℕ → Bool}
    (h : r.acquireSlot sync = (r', none)) : r' = r := by
  simp only [acquireSlot] at h
  split at h
  · cases h
    rfl
  · split at h <;> cases h
    rfl

/-- `on_frame_done` frees exactly the slot that is held for that frame. -/
theorem onFrameDone_cases (r : FrameStagingRing) (done : FrameDone) :
    ((r.onFrameDone done) = (r, false)) ∨
    (done.stagingIndex < r.count ∧ (r.slots done.stagingIndex).helperOwned = true ∧
      (r.slots done.stagingIndex).frameId = done.frameId ∧
      r.onFrameDone done = (r.setSlot done.stagingIndex
        { r.slots done.stagingIndex with helperOwned := false, frameId := 0 }, true)) := by
  unfold onFrameDone
  split_ifs with hcount howned hid
  · exact .inl rfl
  · exact .inl rfl
  · exact .inl rfl
  · exact .inr ⟨by omega, by simpa using howned, by simpa using hid, rfl⟩

theorem onFrameDone_match {r : FrameStagingRing} {done : FrameDone}
    (hlt : done.stagingIndex < r.count)
    (howned : (r.slots done.stagingIndex).helperOwned = true)
    (hid : (r.slots done.stagingIndex).frameId = done.frameId) :
    (r.onFrameDone done).1 = r.setSlot done.stagingIndex
      { r.slots done.stagingIndex with helperOwned := false, frameId := 0 } := by
  rw [onFrameDone, if_neg (by omega), if_neg (by simp [howned]), if_neg (by simp [hid])]

@[simp] theorem onFrameDone_usable (r : FrameStagingRing) (done : FrameDone) :
    (r.onFrameDone done).1.usable = r.usable := by
  rcases r.onFrameDone_cases done with h | ⟨-, -, -, h⟩ <;> simp [h, usable]

end FrameStagingRing

end WivrnNx
