import WivrnNx.Encoder.D3D11Stage
import WivrnNx.Lib.Custody

/-!
# What the helper's stage holds

`D3D11Stage` (encoder/d3d11_stage.cpp) once more, with its COM references, handles and
held locks. Each call comes with what Windows and the driver answer in it, pointers and
handles as numbers, and says what it took, used and gave back.

- `stage_custody`: nothing is used or given back that is not held, and nothing forgotten;
- `abs`: the stage as the rest of the helper sees it, and the calls agree.
-/

namespace WivrnNx.StageRing

open Custody Ipc

inductive Resource
  | device (p : ℕ)
  | context (p : ℕ)
  /-- An interface that is used within a call only. -/
  | interface (p : ℕ)
  /-- The vrserver process. -/
  | process (h : ℕ)
  /-- A duplicated handle. -/
  | handle (h : ℕ)
  | texture (p : ℕ)
  | keyedMutex (p : ℕ)
  /-- A keyed mutex that was acquired with key 1. -/
  | lock (p : ℕ)
  /-- An object of the AMF runtime. -/
  | amf (p : ℕ)
deriving DecidableEq

/-- A slot whose `texture` and `mutex` are set. -/
structure Slot where
  texture : ℕ
  mutex : ℕ
  held : Bool := false
deriving DecidableEq

structure Stage where
  device : Option ℕ := none
  context : Option ℕ := none
  slots : ℕ → Option Slot := fun _ => none
  slotCount : ℕ := 0
  generation : ℕ := 0
  width : UInt32 := 0
  height : UInt32 := 0
  dxgiFormat : ℕ := 0
  acquireTimeouts : ℕ := 0

/-! ## The device -/

structure DeviceAnswer where
  /-- `WIVRNNX_ADAPTER` is set. -/
  named : Bool := false
  factory : Option ℕ := none
  /-- `EnumAdapters`. -/
  adapter : Option ℕ := none
  /-- `D3D11CreateDevice`: the device and its context. -/
  device : Option (ℕ × ℕ)
  multithread : Option ℕ := none
  dxgiDevice : Option ℕ := none
  /-- `GetAdapter`. -/
  used : Option ℕ := none

/-- An interface, if it is there, used and then released. -/
def within (p : Option ℕ) (body : List (Effect Resource)) : List (Effect Resource) :=
  match p with
  | none => body
  | some p => .take (.interface p) :: ((.use (.interface p) :: body) ++ [.give (.interface p)])

/-- `create_device`. -/
def createDevice (s : Stage) (a : DeviceAnswer) : Stage × List (Effect Resource) × Bool :=
  if s.device.isSome then (s, [], true)
  else
    let factory := if a.named then a.factory else none
    let adapter := if factory.isSome then a.adapter else none
    match a.device with
    | none => (s, within factory (within adapter []), false)
    | some (device, context) =>
      ({ s with device := some device, context := some context },
        within factory (within adapter [.take (.device device), .take (.context context)]) ++
          (([.use (.context context)] ++ within a.multithread []) ++
            ([.use (.device device)] ++
              within a.dxgiDevice (if a.dxgiDevice.isSome then within a.used [] else []))), true)

/-- `safe_release`. -/
def given (r : ℕ → Resource) (p : Option ℕ) : List (Effect Resource) :=
  p.toList.map fun p => .give (r p)

/-- `destroy_device`. -/
def destroyDevice (s : Stage) : Stage × List (Effect Resource) :=
  ({ s with device := none, context := none },
    given .context s.context ++ given .device s.device)

/-! ## The ring -/

def closeSlot : Option Slot → List (Effect Resource)
  | none => []
  | some slot =>
    (if slot.held then [.use (.keyedMutex slot.mutex), .give (.lock slot.mutex)] else []) ++
      [.give (.keyedMutex slot.mutex), .give (.texture slot.texture)]

/-- `close_ring`. -/
def closeRing (s : Stage) : Stage × List (Effect Resource) :=
  ({ s with
      slots := fun _ => none, slotCount := 0, generation := 0, width := 0, height := 0
      dxgiFormat := 0 },
    (List.range 3).flatMap fun i => closeSlot (s.slots i))

structure SlotAnswer where
  /-- `DuplicateHandle`. -/
  handle : Option ℕ
  /-- `OpenSharedResource1`, and what `GetDesc` says of the texture. -/
  texture : Option (ℕ × TextureDesc)
  mutex : Option ℕ

structure RingAnswer where
  device1 : Option ℕ
  /-- `OpenProcess`. -/
  process : Option ℕ
  slots : ℕ → SlotAnswer

/-- A turn of the loop in `open_ring`, for one slot. -/
def openSlot (config : StagingConfig) (device1 process : ℕ) (a : SlotAnswer) :
    Option Slot × List (Effect Resource) :=
  match a.handle with
  | none => (none, [.use (.process process)])
  | some h =>
    let duplicated := [.use (.process process), .take (.handle h), .use (.interface device1),
      .use (.handle h)]
    match a.texture with
    | none => (none, duplicated ++ [.give (.handle h)])
    | some (texture, desc) =>
      let opened := duplicated ++ [.take (.texture texture), .give (.handle h),
        .use (.texture texture)]
      if desc ≠ ⟨config.width, config.height, config.dxgiFormat⟩ then
        (none, opened ++ [.give (.texture texture)])
      else
        match a.mutex with
        | none => (none, opened ++ [.give (.texture texture)])
        | some mutex => (some { texture, mutex }, opened ++ [.take (.keyedMutex mutex)])

/-- The loop in `open_ring`: `k` slots from slot `i` on. -/
def openSlots (config : StagingConfig) (device1 process : ℕ) (answers : ℕ → SlotAnswer) :
    ℕ → ℕ → Stage → Bool × Stage × List (Effect Resource)
  | 0, _, s => (true, s, [])
  | k + 1, i, s =>
    match openSlot config device1 process (answers i) with
    | (none, es) => (false, s, es)
    | (some slot, es) =>
      let r := openSlots config device1 process answers k (i + 1)
        { s with slots := Function.update s.slots i (some slot), slotCount := s.slotCount + 1 }
      (r.1, r.2.1, es ++ r.2.2)

/-- `open_ring`. -/
def openRing (s : Stage) (config : StagingConfig) (a : RingAnswer) :
    Stage × List (Effect Resource) × Bool :=
  let (s, closed) := closeRing s
  match s.device with
  | none => (s, closed, false)
  | some device =>
    if !D3D11Stage.plausibleGeometry config then (s, closed, false)
    else
      let asked := closed ++ [.use (.device device)]
      match a.device1 with
      | none => (s, asked, false)
      | some device1 =>
        match a.process with
        | none => (s, asked ++ [.take (.interface device1), .give (.interface device1)], false)
        | some process =>
          let (ok, s, opened) := openSlots config device1 process a.slots config.count 0 s
          let done := asked ++ (.take (.interface device1) :: ((.take (.process process) ::
            (opened ++ [.give (.process process)])) ++ [.give (.interface device1)]))
          if ok then
            ({ s with
                generation := config.generation, width := config.width, height := config.height
                dxgiFormat := config.dxgiFormat }, done, true)
          else
            let (s, closed) := closeRing s
            (s, done ++ closed, false)

/-! ## The locks -/

/-- What `AcquireSync(1, timeout)` comes to; an abandoned mutex is acquired. -/
inductive Sync
  | acquired
  | timeout
  | failed
deriving DecidableEq

/-- `acquire`: the texture. -/
def acquire (s : Stage) (index : ℕ) (sync : Sync) : Stage × List (Effect Resource) × Option ℕ :=
  if index ≥ s.slotCount then (s, [], none)
  else
    match s.slots index with
    | none => (s, [], none)
    | some slot =>
      if slot.held then (s, [], none)
      else if sync = .acquired then
        ({ s with slots := Function.update s.slots index (some { slot with held := true }) },
          [.use (.keyedMutex slot.mutex), .take (.lock slot.mutex)], some slot.texture)
      else
        ({ s with acquireTimeouts := s.acquireTimeouts + 1 }, [.use (.keyedMutex slot.mutex)],
          none)

/-- `release`. -/
def release (s : Stage) (index : ℕ) : Stage × List (Effect Resource) :=
  if index ≥ s.slotCount then (s, [])
  else
    match s.slots index with
    | none => (s, [])
    | some slot =>
      if slot.held then
        ({ s with slots := Function.update s.slots index (some { slot with held := false }) },
          [.use (.keyedMutex slot.mutex), .give (.lock slot.mutex)])
      else (s, [])

/-- `~D3D11Stage`. -/
def destroy (s : Stage) : Stage × List (Effect Resource) :=
  let (s, closed) := closeRing s
  let (s, destroyed) := destroyDevice s
  (s, closed ++ destroyed)

inductive Op
  | createDevice (a : DeviceAnswer)
  | destroyDevice
  | openRing (config : StagingConfig) (a : RingAnswer)
  | closeRing
  | acquire (index : ℕ) (sync : Sync)
  | release (index : ℕ)

def step (s : Stage) : Op → Stage × List (Effect Resource)
  | .createDevice a =>
    let r := createDevice s a
    (r.1, r.2.1)
  | .destroyDevice => destroyDevice s
  | .openRing config a =>
    let r := openRing s config a
    (r.1, r.2.1)
  | .closeRing => closeRing s
  | .acquire index sync =>
    let r := acquire s index sync
    (r.1, r.2.1)
  | .release index => release s index

/-! ## Custody -/

def optional (r : ℕ → Resource) : Option ℕ → Multiset Resource
  | none => 0
  | some p => {r p}

def slotOwns : Option Slot → Multiset Resource
  | none => 0
  | some slot =>
    (if slot.held then {.lock slot.mutex} else 0) +
      {.keyedMutex slot.mutex, .texture slot.texture}

/-- What the fields of the stage know of. -/
def owns (s : Stage) : Multiset Resource :=
  optional .context s.context + optional .device s.device +
    ∑ i ∈ Finset.range 3, slotOwns (s.slots i)

structure Inv (s : Stage) : Prop where
  bound : s.slotCount ≤ 3
  open_iff : ∀ i, (s.slots i).isSome = true ↔ i < s.slotCount
  context : s.context.isSome = s.device.isSome

section Custody

variable {s : Stage} {p q : Multiset Resource} {es : List (Effect Resource)}

theorem given_turns (r : ℕ → Resource) (x : Option ℕ) : Turns (optional r x) (given r x) 0 := by
  cases x with
  | none => exact Turns.nil (p := (0 : Multiset Resource))
  | some x => exact Turns.give (p := (0 : Multiset Resource))

theorem within_turns (h : Turns p es q) (x : Option ℕ) : Turns p (within x es) q := by
  cases x with
  | none => exact h
  | some x =>
    have hused : Turns (Resource.interface x ::ₘ p) [.use (.interface x)] (.interface x ::ₘ p) :=
      Turns.use (Multiset.mem_cons_self _ _)
    exact (hused.append (h.frame_cons (.interface x))).around

theorem createDevice_turns (a : DeviceAnswer) (h : Inv s) :
    Turns (owns s) (createDevice s a).2.1 (owns (createDevice s a).1) := by
  unfold createDevice
  split
  · exact Turns.nil
  · rename_i hdevice
    have hnone : s.device = none := Option.not_isSome_iff_eq_none.mp hdevice
    have hcontext : s.context = none := by
      rw [← Option.isNone_iff_eq_none, ← Option.not_isSome, h.context, hnone]
      rfl
    dsimp only
    split
    · exact within_turns (within_turns Turns.nil _) _
    · rename_i device context hcreated
      have howns : owns { s with device := some device, context := some context } =
          .context context ::ₘ .device device ::ₘ owns s := by
        simp only [owns, hnone, hcontext, optional, zero_add]
        rw [← Multiset.singleton_add, ← Multiset.singleton_add, add_assoc]
      have hmade : Turns (owns s) [.take (.device device), .take (.context context)]
          (owns { s with device := some device, context := some context }) := by
        rw [howns]
        exact Turns.take.append Turns.take
      refine (within_turns (within_turns hmade _) _).append ?_
      rw [howns]
      refine ((Turns.use ?_).append (within_turns Turns.nil _)).append
        ((Turns.use ?_).append (within_turns ?_ _))
      · exact Multiset.mem_cons_self _ _
      · exact Multiset.mem_cons_of_mem (Multiset.mem_cons_self _ _)
      · split
        · exact within_turns Turns.nil _
        · exact Turns.nil

theorem closeSlot_turns (slot : Option Slot) : Turns (slotOwns slot) (closeSlot slot) 0 := by
  cases slot with
  | none => exact Turns.nil (p := (0 : Multiset Resource))
  | some slot =>
    have hopen : Turns ({.keyedMutex slot.mutex, .texture slot.texture} : Multiset Resource)
        [.give (.keyedMutex slot.mutex), .give (.texture slot.texture)] 0 :=
      (Turns.give (p := {Resource.texture slot.texture})).append Turns.give
    unfold slotOwns closeSlot
    dsimp only
    split
    · rw [Multiset.singleton_add]
      refine ((Turns.use ?_).append Turns.give).append hopen
      exact Multiset.mem_cons_of_mem (Multiset.mem_cons_self _ _)
    · rw [zero_add]
      exact hopen

theorem closeRing_turns : Turns (owns s) (closeRing s).2 (owns (closeRing s).1) := by
  have hslots := (turns_sum (fun i => closeSlot_turns (s.slots i)) 3).frame
    (optional .context s.context + optional .device s.device)
  rw [add_comm] at hslots
  show Turns (owns s) _ (_ + ∑ i ∈ Finset.range 3, slotOwns none)
  rw [show ∑ i ∈ Finset.range 3, slotOwns none = 0 from Finset.sum_const_zero, add_comm]
  exact hslots

theorem destroyDevice_turns : Turns (owns s) (destroyDevice s).2 (owns (destroyDevice s).1) := by
  have hboth : Turns (optional .context s.context + optional .device s.device)
      (given .context s.context ++ given .device s.device) 0 := by
    have hcontext := (given_turns .context s.context).frame (optional .device s.device)
    rw [zero_add] at hcontext
    exact hcontext.append (given_turns .device s.device)
  have hall := hboth.frame (∑ i ∈ Finset.range 3, slotOwns (s.slots i))
  exact hall

/-! ## Opening a ring -/

/-- What the rest of the helper is told of a slot's answers. -/
def SlotAnswer.slotOpen (a : SlotAnswer) : SlotOpen where
  duplicated := a.handle.isSome
  desc := a.texture.map Prod.snd
  keyedMutex := a.mutex.isSome

/-- A slot that does not open leaves nothing behind. -/
theorem openSlot_spec (config : StagingConfig) (device1 process : ℕ) (a : SlotAnswer) :
    let r := openSlot config device1 process a
    (r.1.isSome = D3D11Stage.slotOpens config a.slotOpen) ∧
      Turns {.process process, .interface device1} r.2
        ({.process process, .interface device1} + slotOwns r.1) ∧
      ∀ slot, r.1 = some slot → slot.held = false := by
  have hprocess : Resource.process process ∈
      ({.process process, .interface device1} : Multiset Resource) := Multiset.mem_cons_self _ _
  unfold openSlot D3D11Stage.slotOpens SlotAnswer.slotOpen
  cases hhandle : a.handle with
  | none => exact ⟨rfl, Turns.use hprocess, by rintro _ ⟨⟩⟩
  | some handle =>
    have hduplicated : Turns ({.process process, .interface device1} : Multiset Resource)
        [.use (.process process), .take (.handle handle), .use (.interface device1),
          .use (.handle handle)]
        (.handle handle ::ₘ {.process process, .interface device1}) := by
      simp [Turns, after]
    cases htexture : a.texture with
    | none => exact ⟨rfl, hduplicated.append Turns.give, by rintro _ ⟨⟩⟩
    | some opened =>
      obtain ⟨texture, desc⟩ := opened
      have hopened := hduplicated.append (Turns.take (a := Resource.texture texture))
      rw [Multiset.cons_swap] at hopened
      have hclosed := (hopened.append Turns.give).append
        (Turns.use (Multiset.mem_cons_self (Resource.texture texture) _))
      dsimp only
      split
      · rename_i hdesc
        refine ⟨?_, hclosed.append Turns.give, by rintro _ ⟨⟩⟩
        simp [hdesc]
      · rename_i hdesc
        rw [not_not] at hdesc
        cases hmutex : a.mutex with
        | none =>
          refine ⟨?_, hclosed.append Turns.give, by rintro _ ⟨⟩⟩
          simp
        | some mutex =>
          refine ⟨?_, ?_, ?_⟩
          · simp [hdesc]
          · have hboth := hclosed.append (Turns.take (a := Resource.keyedMutex mutex))
            rw [slotOwns, if_neg Bool.false_ne_true, zero_add, add_comm]
            exact hboth
          · rintro slot hslot
            cases hslot
            rfl

theorem sum_update (slots : ℕ → Option Slot) {i : ℕ} (hi : i < 3) (x : Option Slot) :
    (∑ j ∈ Finset.range 3, slotOwns (Function.update slots i x j)) + slotOwns (slots i) =
      (∑ j ∈ Finset.range 3, slotOwns (slots j)) + slotOwns x := by
  have hmem : i ∈ Finset.range 3 := Finset.mem_range.mpr hi
  have hrest : ∑ j ∈ (Finset.range 3).erase i, slotOwns (Function.update slots i x j) =
      ∑ j ∈ (Finset.range 3).erase i, slotOwns (slots j) := by
    refine Finset.sum_congr rfl fun j hj => ?_
    rw [Function.update_of_ne (Finset.ne_of_mem_erase hj)]
  rw [← Finset.add_sum_erase _ _ hmem, ← Finset.add_sum_erase _ (fun j => slotOwns (slots j)) hmem,
    hrest, Function.update_self]
  abel

/-- None of the open slots is held. -/
def Fresh (s : Stage) : Prop := ∀ i slot, s.slots i = some slot → slot.held = false

/-- The ring with one more slot. -/
theorem slot_added (h : Inv s) (hfresh : Fresh s) {i : ℕ} (hi : s.slotCount = i) (hbound : i < 3)
    {slot : Slot} (hheld : slot.held = false) {s' : Stage}
    (hs' : s' = { s with
      slots := Function.update s.slots i (some slot), slotCount := s.slotCount + 1 }) :
    Inv s' ∧ Fresh s' ∧ owns s' = slotOwns (some slot) + owns s ∧ s'.slotCount = i + 1 := by
  have hslots : s'.slots = Function.update s.slots i (some slot) := by rw [hs']
  have hcount : s'.slotCount = i + 1 := by rw [hs', ← hi]
  have hdevice : s'.device = s.device := by rw [hs']
  have hcontext : s'.context = s.context := by rw [hs']
  refine ⟨⟨by omega, ?_, by rw [hcontext, hdevice, h.context]⟩, ?_, ?_, hcount⟩
  · intro j
    rw [hslots, hcount]
    by_cases hj : j = i
    · rw [hj, Function.update_self]
      exact iff_of_true rfl (Nat.lt_succ_self _)
    · rw [Function.update_of_ne hj, h.open_iff j]
      omega
  · intro j slot' hslot'
    rw [hslots] at hslot'
    by_cases hj : j = i
    · rw [hj, Function.update_self] at hslot'
      cases hslot'
      exact hheld
    · rw [Function.update_of_ne hj] at hslot'
      exact hfresh j slot' hslot'
  · have hempty : s.slots i = none := by
      rw [← Option.not_isSome_iff_eq_none, h.open_iff]
      omega
    have hsum := sum_update s.slots hbound (some slot)
    rw [hempty, show slotOwns none = 0 from rfl, add_zero] at hsum
    rw [owns, hslots, hdevice, hcontext, hsum, owns]
    abel

structure Opened (config : StagingConfig) (device1 process : ℕ) (answers : ℕ → SlotAnswer)
    (k i : ℕ) (s : Stage) (r : Bool × Stage × List (Effect Resource)) : Prop where
  inv : Inv r.2.1
  fresh : Fresh r.2.1
  turns : Turns ({.process process, .interface device1} + owns s) r.2.2
    ({.process process, .interface device1} + owns r.2.1)
  ok_iff : r.1 = true ↔
    ∀ j, i ≤ j → j < i + k → D3D11Stage.slotOpens config (answers j).slotOpen = true
  count : r.1 = true → r.2.1.slotCount = i + k
  rest : r.2.1 = { s with slots := r.2.1.slots, slotCount := r.2.1.slotCount }

/-- The loop: every slot from `i` on, or none after the first that does not open. -/
theorem openSlots_opened (config : StagingConfig) (device1 process : ℕ)
    (answers : ℕ → SlotAnswer) (k : ℕ) {i : ℕ} {s : Stage} (h : Inv s) (hfresh : Fresh s)
    (hi : s.slotCount = i) (hk : i + k ≤ 3) :
    Opened config device1 process answers k i s
      (openSlots config device1 process answers k i s) := by
  induction k generalizing i s with
  | zero => exact ⟨h, hfresh, Turns.nil, iff_of_true rfl fun j _ _ => by omega, fun _ => hi, rfl⟩
  | succ k ih =>
    obtain ⟨hopens, hturns, hheld⟩ := openSlot_spec config device1 process (answers i)
    unfold openSlots
    generalize openSlot config device1 process (answers i) = opened at hopens hturns hheld
    obtain ⟨slot, es⟩ := opened
    have hframed := hturns.frame (owns s)
    rw [add_assoc] at hframed
    cases slot with
    | none =>
      refine ⟨h, hfresh, ?_, iff_of_false Bool.false_ne_true ?_, by rintro ⟨⟩, rfl⟩
      · rw [show slotOwns none + owns s = owns s from zero_add _] at hframed
        exact hframed
      · intro hall
        rw [hall i le_rfl (by omega)] at hopens
        cases hopens
    | some slot =>
      dsimp only
      generalize hs₁ : ({ s with
        slots := Function.update s.slots i (some slot)
        slotCount := s.slotCount + 1 } : Stage) = s₁
      obtain ⟨hinv, hfresh', howns, hcount⟩ :=
        slot_added h hfresh hi (by omega) (hheld slot rfl) hs₁.symm
      have hrest := ih hinv hfresh' hcount (by omega)
      refine ⟨hrest.inv, hrest.fresh, ?_, hrest.ok_iff.trans ?_, ?_, ?_⟩
      · rw [← howns] at hframed
        exact hframed.append hrest.turns
      · constructor
        · intro hall j hj hlt
          rcases Nat.eq_or_lt_of_le hj with rfl | hlater
          · exact hopens.symm
          · exact hall j hlater (by omega)
        · intro hall j hj hlt
          exact hall j (by omega) (by omega)
      · intro hok
        rw [hrest.count hok]
        omega
      · have hsame := hrest.rest
        rw [← hs₁] at hsame ⊢
        exact hsame

theorem closeRing_inv (h : Inv s) : Inv (closeRing s).1 ∧ Fresh (closeRing s).1 :=
  ⟨⟨Nat.zero_le 3, fun i => iff_of_false Bool.false_ne_true (Nat.not_lt_zero i), h.context⟩,
    by rintro _ _ ⟨⟩⟩

/-! ## The stage of the rest of the helper -/

def heldAt (s : Stage) (i : ℕ) : Bool := ((s.slots i).map Slot.held).getD false

/-- The stage without its pointers. -/
def abs (s : Stage) : D3D11Stage where
  device := s.device.isSome
  held := (List.range s.slotCount).map (heldAt s)
  generation := s.generation
  width := s.width
  height := s.height
  dxgiFormat := s.dxgiFormat
  acquireTimeouts := s.acquireTimeouts

theorem abs_held_of_fresh (hfresh : Fresh s) :
    (abs s).held = List.replicate s.slotCount false := by
  refine List.eq_replicate_iff.mpr ⟨by rw [abs, List.length_map, List.length_range], ?_⟩
  intro held hheld
  obtain ⟨i, -, rfl⟩ := List.mem_map.mp hheld
  rw [heldAt]
  cases hslot : s.slots i with
  | none => rfl
  | some slot => exact hfresh i slot hslot

structure RingOpened (s : Stage) (config : StagingConfig) (a : RingAnswer)
    (r : Stage × List (Effect Resource) × Bool) : Prop where
  inv : Inv r.1
  turns : Turns (owns s) r.2.1 (owns r.1)
  agrees : (abs s).openRing config a.device1.isSome a.process.isSome
    (fun i => (a.slots i).slotOpen) = (abs r.1, r.2.2)

/-- Whatever fails on the way, the old ring is closed, and of the new one there is all or
nothing. -/
theorem openRing_opened (h : Inv s) (config : StagingConfig) (a : RingAnswer) :
    RingOpened s config a (openRing s config a) := by
  have hclosed : Turns (owns s) (closeRing s).2 (owns (closeRing s).1) := closeRing_turns
  obtain ⟨hinv, hfresh⟩ := closeRing_inv h
  have habs : (abs s).closeRing = abs (closeRing s).1 := rfl
  unfold openRing
  dsimp only
  cases hdevice : (closeRing s).1.device with
  | none =>
    refine ⟨hinv, hclosed, ?_⟩
    rw [D3D11Stage.openRing, if_neg ?_, habs]
    rintro ⟨hthere, -⟩
    rw [habs, abs, hdevice] at hthere
    cases hthere
  | some device =>
    have hthere : (abs s).closeRing.device = true := by rw [habs, abs, hdevice]; rfl
    cases hgeometry : D3D11Stage.plausibleGeometry config with
    | false =>
      refine ⟨hinv, hclosed, ?_⟩
      rw [D3D11Stage.openRing, if_neg ?_, habs]
      · rfl
      · rw [hgeometry]
        rintro ⟨-, ⟨⟩, -⟩
    | true =>
      have hasked : Turns (owns s) ((closeRing s).2 ++ [.use (.device device)])
          (owns (closeRing s).1) := by
        refine hclosed.append (Turns.use ?_)
        rw [owns, hdevice]
        have hmem : Resource.device device ∈ optional .device (some device) :=
          Multiset.mem_singleton_self _
        exact Multiset.mem_add.mpr (.inl (Multiset.mem_add.mpr (.inr hmem)))
      simp only [Bool.not_true, Bool.false_eq_true, if_false]
      cases hdevice1 : a.device1 with
      | none =>
        refine ⟨hinv, hasked, ?_⟩
        rw [D3D11Stage.openRing, if_neg (by rw [hdevice1]; rintro ⟨-, -, ⟨⟩, -⟩), habs]
      | some device1 =>
        cases hprocess : a.process with
        | none =>
          have hnothing : Turns (Resource.interface device1 ::ₘ owns (closeRing s).1) []
              (.interface device1 ::ₘ owns (closeRing s).1) := Turns.nil
          refine ⟨hinv, hasked.append hnothing.around, ?_⟩
          rw [D3D11Stage.openRing, if_neg (by rw [hprocess]; rintro ⟨-, -, -, ⟨⟩, -⟩), habs]
        | some process =>
          have hcount : config.count ≤ 3 := by
            rw [D3D11Stage.plausibleGeometry, decide_eq_true_iff] at hgeometry
            exact hgeometry.2.1
          have hopened :=
            openSlots_opened (i := 0) config device1 process a.slots config.count hinv hfresh rfl
              (by omega)
          have hall : (List.range config.count).all (fun i =>
              D3D11Stage.slotOpens config (a.slots i).slotOpen) = true ↔
              (openSlots config device1 process a.slots config.count 0 (closeRing s).1).1 =
                true := by
            rw [hopened.ok_iff, List.all_eq_true]
            constructor
            · intro hslots j _ hj
              exact hslots j (List.mem_range.mpr (by omega))
            · intro hslots j hj
              exact hslots j (Nat.zero_le j) (by have := List.mem_range.mp hj; omega)
          dsimp only
          generalize openSlots config device1 process a.slots config.count 0 (closeRing s).1 = r
            at hopened hall ⊢
          obtain ⟨ok, s', es⟩ := r
          have hrest := hopened.rest
          have hloop := hopened.turns
          rw [Multiset.insert_eq_cons, Multiset.cons_add, Multiset.cons_add,
            Multiset.singleton_add, Multiset.singleton_add] at hloop
          have hdone := hasked.append hloop.around.around
          dsimp only at hrest hdone hall ⊢
          cases ok with
          | true =>
            rw [if_pos rfl]
            refine ⟨⟨hopened.inv.bound, hopened.inv.open_iff, hopened.inv.context⟩, hdone, ?_⟩
            rw [D3D11Stage.openRing, if_pos ⟨hthere, hgeometry, by rw [hdevice1]; rfl,
              by rw [hprocess]; rfl, hall.mpr rfl⟩]
            have hheld : (abs s').held = List.replicate config.count false := by
              rw [abs_held_of_fresh hopened.fresh, hopened.count rfl, Nat.zero_add]
            have hdevice' : s'.device = s.device := by rw [hrest]; rfl
            have htimeouts : s'.acquireTimeouts = s.acquireTimeouts := by rw [hrest]; rfl
            show _ = (D3D11Stage.mk s'.device.isSome (abs s').held config.generation config.width
              config.height config.dxgiFormat s'.acquireTimeouts, true)
            rw [hheld, hdevice', htimeouts]
            rfl
          | false =>
            rw [if_neg Bool.false_ne_true]
            refine ⟨(closeRing_inv hopened.inv).1, hdone.append closeRing_turns, ?_⟩
            rw [D3D11Stage.openRing, if_neg ?_, habs]
            · rw [hrest]
              rfl
            · rintro ⟨-, -, -, -, hslots⟩
              exact Bool.false_ne_true (hall.mp hslots)

theorem held_update (s : Stage) (index : ℕ) (slot : Slot) :
    (List.range s.slotCount).map (heldAt { s with
      slots := Function.update s.slots index (some slot) }) =
        ((List.range s.slotCount).map (heldAt s)).set index slot.held := by
  refine List.ext_getElem (by simp) fun i hi _ => ?_
  rw [List.getElem_map, List.getElem_range, List.getElem_set, List.getElem_map, List.getElem_range]
  show ((Function.update s.slots index (some slot) i).map Slot.held).getD false = _
  split
  · rename_i hindex
    rw [← hindex, Function.update_self]
    rfl
  · rename_i hindex
    rw [Function.update_of_ne (Ne.symm hindex)]
    rfl

theorem abs_held (h : Inv s) {index : ℕ} {slot : Slot} (hslot : s.slots index = some slot) :
    (abs s).held[index]? = some slot.held := by
  have hlt : index < s.slotCount := (h.open_iff index).mp (by rw [hslot]; rfl)
  rw [abs, List.getElem?_map, List.getElem?_range hlt]
  show some (heldAt s index) = _
  rw [heldAt, hslot]
  rfl

/-- A slot's note that it is held is what changes, and the lock with it. -/
theorem hold_spec (h : Inv s) {index : ℕ} {slot : Slot} (hslot : s.slots index = some slot)
    (held : Bool) :
    let s' : Stage := { s with
      slots := Function.update s.slots index (some { slot with held := held }) }
    Inv s' ∧ abs s' = { abs s with held := (abs s).held.set index held } ∧
      owns s' + slotOwns (some slot) = owns s + slotOwns (some { slot with held := held }) := by
  have hlt : index < s.slotCount := (h.open_iff index).mp (by rw [hslot]; rfl)
  refine ⟨⟨h.bound, ?_, h.context⟩, ?_, ?_⟩
  · intro i
    show (Function.update s.slots index _ i).isSome = true ↔ i < s.slotCount
    by_cases hi : i = index
    · rw [hi, Function.update_self]
      exact iff_of_true rfl hlt
    · rw [Function.update_of_ne hi]
      exact h.open_iff i
  · rw [abs, held_update]
    rfl
  · have hsum := sum_update s.slots (hlt.trans_le h.bound)
      (some { slot with held := held })
    rw [hslot] at hsum
    show _ + (∑ j ∈ Finset.range 3, slotOwns (Function.update s.slots index _ j)) + _ = _
    rw [add_assoc, hsum, owns]
    abel

structure Acquired (s : Stage) (index : ℕ) (sync : Sync)
    (r : Stage × List (Effect Resource) × Option ℕ) : Prop where
  inv : Inv r.1
  turns : Turns (owns s) r.2.1 (owns r.1)
  agrees : (abs s).acquire index (sync = .acquired) = (abs r.1, r.2.2.isSome)
  /-- A texture that is handed out is one that the stage holds, and so is its lock. -/
  alive : ∀ texture, r.2.2 = some texture → ∃ slot, r.1.slots index = some slot ∧
    slot.texture = texture ∧ .texture texture ∈ owns r.1 ∧ .lock slot.mutex ∈ owns r.1

theorem slotOwns_held (slot : Slot) :
    slotOwns (some { slot with held := true }) =
      .lock slot.mutex ::ₘ slotOwns (some { slot with held := false }) := by
  show {Resource.lock slot.mutex} + _ = _ ::ₘ (0 + _)
  rw [zero_add, Multiset.singleton_add]

theorem slotOwns_le {index : ℕ} (hindex : index < 3) (s : Stage) :
    slotOwns (s.slots index) ≤ owns s :=
  (Finset.single_le_sum (fun _ _ => Multiset.zero_le _) (Finset.mem_range.mpr hindex)).trans
    (Multiset.le_add_left _ _)

theorem mutex_mem (h : Inv s) {index : ℕ} {slot : Slot} (hslot : s.slots index = some slot) :
    .keyedMutex slot.mutex ∈ owns s := by
  have hlt : index < s.slotCount := (h.open_iff index).mp (by rw [hslot]; rfl)
  have hle := slotOwns_le (hlt.trans_le h.bound) s
  rw [hslot] at hle
  refine Multiset.mem_of_le hle (Multiset.mem_add.mpr (.inr ?_))
  exact Multiset.mem_cons_self _ _

theorem abs_held_none {index : ℕ} (hindex : s.slotCount ≤ index) :
    (abs s).held[index]? = none := by
  rw [abs, List.getElem?_map, List.getElem?_eq_none (by rw [List.length_range]; exact hindex)]
  rfl

theorem acquire_acquired (h : Inv s) (index : ℕ) (sync : Sync) :
    Acquired s index sync (acquire s index sync) := by
  unfold acquire
  split
  · rename_i hindex
    refine ⟨h, Turns.nil, ?_, by rintro _ ⟨⟩⟩
    rw [D3D11Stage.acquire, abs_held_none hindex]
    rfl
  · rename_i hindex
    cases hslot : s.slots index with
    | none =>
      have hopen := (h.open_iff index).mpr (not_le.mp hindex)
      rw [hslot] at hopen
      cases hopen
    | some slot =>
      have habs := abs_held h hslot
      dsimp only
      split
      · rename_i hheld
        refine ⟨h, Turns.nil, ?_, by rintro _ ⟨⟩⟩
        rw [D3D11Stage.acquire, habs, hheld]
        rfl
      · rename_i hheld
        have hfree : slot.held = false := Bool.eq_false_iff.mpr hheld
        split
        · rename_i hsync
          obtain ⟨hinv, hagrees, howns⟩ := hold_spec h hslot true
          have hsame : { slot with held := false } = slot := by rw [← hfree]
          rw [slotOwns_held, hsame, ← Multiset.singleton_add, add_left_comm, ← add_assoc,
            add_left_inj, Multiset.singleton_add] at howns
          refine ⟨hinv, ?_, ?_, ?_⟩
          · rw [howns]
            exact (Turns.use (mutex_mem h hslot)).append Turns.take
          · rw [D3D11Stage.acquire, habs, hfree, hagrees]
            simp [hsync]
          · rintro texture ⟨⟩
            have hlt : index < 3 := (not_le.mp hindex).trans_le h.bound
            have hle := slotOwns_le hlt { s with
              slots := Function.update s.slots index (some { slot with held := true }) }
            change slotOwns (Function.update s.slots index _ index) ≤ _ at hle
            rw [Function.update_self, slotOwns_held] at hle
            refine ⟨_, Function.update_self .., rfl, ?_, ?_⟩
            · refine Multiset.mem_of_le hle (Multiset.mem_cons_of_mem ?_)
              simp [slotOwns]
            · exact Multiset.mem_of_le hle (Multiset.mem_cons_self _ _)
        · rename_i hsync
          refine ⟨⟨h.bound, h.open_iff, h.context⟩, Turns.use (mutex_mem h hslot), ?_,
            by rintro _ ⟨⟩⟩
          rw [D3D11Stage.acquire, habs, hfree]
          simp [hsync]
          rfl

theorem release_spec (h : Inv s) (index : ℕ) :
    Inv (release s index).1 ∧ Turns (owns s) (release s index).2 (owns (release s index).1) ∧
      (abs s).release index = abs (release s index).1 := by
  unfold release
  split
  · rename_i hindex
    refine ⟨h, Turns.nil, ?_⟩
    rw [D3D11Stage.release, abs_held_none hindex, if_neg (by rintro ⟨⟩)]
  · cases hslot : s.slots index with
    | none =>
      rename_i hindex
      have hopen := (h.open_iff index).mpr (not_le.mp hindex)
      rw [hslot] at hopen
      cases hopen
    | some slot =>
      have habs := abs_held h hslot
      dsimp only
      split
      · rename_i hheld
        obtain ⟨hinv, hagrees, howns⟩ := hold_spec h hslot false
        have hsame : { slot with held := true } = slot := by rw [← hheld]
        have hslotOwns := slotOwns_held slot
        rw [hsame] at hslotOwns
        rw [hslotOwns, ← Multiset.singleton_add, add_left_comm, ← add_assoc, add_left_inj,
          Multiset.singleton_add] at howns
        refine ⟨hinv, ?_, ?_⟩
        · refine (Turns.use (mutex_mem h hslot)).append ?_
          rw [← howns]
          exact Turns.give
        · rw [D3D11Stage.release, habs, hheld, if_pos rfl, hagrees]
      · rename_i hheld
        refine ⟨h, Turns.nil, ?_⟩
        rw [D3D11Stage.release, habs, if_neg (fun hslot' => hheld (Option.some.inj hslot'))]

/-! ## Runs -/

/-- The same call on the stage without pointers. -/
def seenStep (d : D3D11Stage) : Op → D3D11Stage
  | .createDevice a => { d with device := d.device || a.device.isSome }
  | .destroyDevice => d.destroyDevice
  | .openRing config a =>
    (d.openRing config a.device1.isSome a.process.isSome fun i => (a.slots i).slotOpen).1
  | .closeRing => d.closeRing
  | .acquire index sync => (d.acquire index (sync = .acquired)).1
  | .release index => d.release index

theorem createDevice_inv (h : Inv s) (a : DeviceAnswer) : Inv (createDevice s a).1 := by
  unfold createDevice
  split
  · exact h
  · dsimp only
    split
    · exact h
    · exact ⟨h.bound, h.open_iff, rfl⟩

theorem createDevice_abs (s : Stage) (a : DeviceAnswer) :
    abs (createDevice s a).1 =
      { abs s with device := (abs s).device || a.device.isSome } := by
  unfold createDevice
  split
  · rename_i hdevice
    rw [show (abs s).device = true from hdevice, Bool.true_or, ← hdevice]
    rfl
  · rename_i hdevice
    have hnone : (abs s).device = false := Bool.eq_false_iff.mpr hdevice
    rw [hnone, Bool.false_or]
    dsimp only
    split
    · rename_i hrefused
      rw [hrefused, show (none : Option (ℕ × ℕ)).isSome = false from rfl, ← hnone]
    · rename_i device context hcreated
      rw [hcreated]
      rfl

theorem step_spec (h : Inv s) (op : Op) :
    Inv (step s op).1 ∧ Turns (owns s) (step s op).2 (owns (step s op).1) ∧
      abs (step s op).1 = seenStep (abs s) op := by
  cases op with
  | createDevice a =>
    exact ⟨createDevice_inv h a, createDevice_turns a h, createDevice_abs s a⟩
  | destroyDevice => exact ⟨⟨h.bound, h.open_iff, rfl⟩, destroyDevice_turns, rfl⟩
  | openRing config a =>
    have hopened := openRing_opened h config a
    refine ⟨hopened.inv, hopened.turns, ?_⟩
    rw [seenStep, hopened.agrees]
    rfl
  | closeRing => exact ⟨(closeRing_inv h).1, closeRing_turns, rfl⟩
  | acquire index sync =>
    have hacquired := acquire_acquired h index sync
    refine ⟨hacquired.inv, hacquired.turns, ?_⟩
    rw [seenStep, hacquired.agrees]
    rfl
  | release index =>
    obtain ⟨hinv, hturns, hagrees⟩ := release_spec h index
    exact ⟨hinv, hturns, hagrees.symm⟩

theorem trace_abs (ops : List Op) (s : Stage) (h : Inv s) :
    abs (trace step s ops).1 = ops.foldl seenStep (abs s) := by
  induction ops generalizing s with
  | nil => rfl
  | cons op ops ih =>
    obtain ⟨hinv, -, habs⟩ := step_spec h op
    rw [List.foldl_cons, ← habs]
    exact ih (step s op).1 hinv

theorem owns_destroyed (s : Stage) : owns (destroyDevice (closeRing s).1).1 = 0 := by
  show 0 + 0 + ∑ i ∈ Finset.range 3, slotOwns none = 0
  rw [show ∑ i ∈ Finset.range 3, slotOwns none = 0 from Finset.sum_const_zero]
  rfl

theorem destroy_turns (s : Stage) : Turns (owns s) (destroy s).2 0 := by
  have hall := (closeRing_turns (s := s)).append (destroyDevice_turns (s := (closeRing s).1))
  rw [owns_destroyed] at hall
  exact hall

end Custody

structure Kept (ops : List Op) (s : Stage) (es : List (Effect Resource)) : Prop where
  /-- Nothing was given back that was not held, and the fields know of all that is held. -/
  turns : Turns 0 es (owns s)
  /-- The destructor leaves nothing. -/
  destroyed : Turns 0 (es ++ (destroy s).2) 0
  /-- No slot lies outside the array. -/
  bound : s.slotCount ≤ 3
  /-- The rest of the helper has the same stage, and hears the same. -/
  agrees : abs s = ops.foldl seenStep {}
  opened : ∀ config a, ((abs s).openRing config a.device1.isSome a.process.isSome
    fun i => (a.slots i).slotOpen).2 = (openRing s config a).2.2
  acquired : ∀ index sync, Acquired s index sync (acquire s index sync)

/-- Whatever is called, in whatever order, and wherever it fails. -/
theorem stage_custody (ops : List Op) : Kept ops (trace step {} ops).1 (trace step {} ops).2 := by
  have hempty : Inv {} :=
    ⟨Nat.zero_le 3, fun i => iff_of_false Bool.false_ne_true (Nat.not_lt_zero i), rfl⟩
  have hstep : ∀ s op, Inv s →
      Inv (step s op).1 ∧ Turns (owns s) (step s op).2 (owns (step s op).1) := by
    intro s op h
    obtain ⟨hinv, hturns, -⟩ := step_spec h op
    exact ⟨hinv, hturns⟩
  obtain ⟨hinv, hturns⟩ := trace_turns hstep ops {} hempty
  have hstart : owns {} = 0 := owns_destroyed {}
  rw [hstart] at hturns
  refine ⟨hturns, hturns.append (destroy_turns _), hinv.bound, trace_abs ops {} hempty, ?_,
    fun index sync => acquire_acquired hinv index sync⟩
  intro config a
  rw [(openRing_opened hinv config a).agrees]

end WivrnNx.StageRing
