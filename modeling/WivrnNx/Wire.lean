import WivrnNx.Bridge
import WivrnNx.Lib.Packed
import WivrnNx.Shim.IpcSession

/-!
# The messages on the pipe

Every message of ipc/wivrnnx_ipc.h as the bytes of one pipe message: the 4-byte type and
the packed struct. `HmdConfig`, `PoseUpdate` and `InputUpdate` are the bridge's; the other
structs are here, with floats as their bits.

- `layout`: the packed struct of each type;
- `encode`, `decode`: `send_message`'s buffer, and what the `memcpy` behind the size check
  takes out of one;
- `wire_format`: what is sent is what is read, and exactly the encodings are read, but for
  what is in the padding.
-/

namespace WivrnNx

namespace Wire

open IpcClient

/-- `kMaxMessageSize`. -/
def maxMessageSize : ℕ := 512

structure ShimHello where
  magic : UInt32
  version : UInt32
  vrserverPid : UInt32
deriving DecidableEq, Repr

structure KeepAlive where
  timeQpc : UInt64
deriving DecidableEq, Repr

structure HelperHello where
  magic : UInt32
  version : UInt32
deriving DecidableEq, Repr

structure Haptic where
  device : UInt8
  durationS : FloatBits
  frequencyHz : FloatBits
  amplitude : FloatBits
deriving DecidableEq, Repr

structure StagingConfig where
  generation : UInt32
  width : UInt32
  height : UInt32
  dxgiFormat : UInt32
  count : UInt32
  handles : Fin 3 → UInt64
deriving DecidableEq

structure FrameReady where
  frameId : UInt64
  sampleTimeQpc : UInt64
  generation : UInt32
  stagingIndex : UInt32
  qw : FloatBits
  qx : FloatBits
  qy : FloatBits
  qz : FloatBits
  px : FloatBits
  py : FloatBits
  pz : FloatBits
  predictS : FloatBits
deriving DecidableEq, Repr

structure FrameDone where
  frameId : UInt64
  stagingIndex : UInt32
  flags : UInt32
deriving DecidableEq, Repr

/-! ## The packed structs -/

section Layouts

open Packed

def shimHello : Packed ShimHello :=
  (uint32.pair (uint32.pair uint32)).map
    (fun a => ⟨a.1, a.2.1, a.2.2⟩) (fun m => (m.magic, m.version, m.vrserverPid))
    (fun _ => rfl) (fun _ => rfl)

def keepAlive : Packed KeepAlive :=
  uint64.map (fun a => ⟨a⟩) (fun m => m.timeQpc) (fun _ => rfl) (fun _ => rfl)

def haptic : Packed Haptic :=
  (uint8.pair ((pad 7).pair (uint32.pair (uint32.pair uint32)))).map
    (fun a => ⟨a.1, a.2.2.1, a.2.2.2.1, a.2.2.2.2⟩)
    (fun m => (m.device, (), m.durationS, m.frequencyHz, m.amplitude))
    (fun _ => rfl) (fun _ => rfl)

def helperHello : Packed HelperHello :=
  (uint32.pair uint32).map (fun a => ⟨a.1, a.2⟩) (fun m => (m.magic, m.version))
    (fun _ => rfl) (fun _ => rfl)

/-- The head of an HmdConfig: the mode and the projection tangents of the two eyes. -/
def hmdMode : Packed ((UInt32 × UInt32 × FloatBits × FloatBits) ×
    (FloatBits × FloatBits) × (FloatBits × FloatBits) × (FloatBits × FloatBits) ×
      (FloatBits × FloatBits)) :=
  (uint32.pair (uint32.pair (uint32.pair uint32))).pair
    ((uint32.pair uint32).pair ((uint32.pair uint32).pair
      ((uint32.pair uint32).pair (uint32.pair uint32))))

def hmdConfig : Packed HmdConfig :=
  (hmdMode.pair (((uint32.array 4).array 2).pair ((uint32.array 3).array 2))).map
    (fun a =>
      { eyeWidth := a.1.1.1, eyeHeight := a.1.1.2.1, refreshHz := a.1.1.2.2.1
        ipdM := a.1.1.2.2.2, projLeft := a.1.2.1, projRight := a.1.2.2.1
        projTop := a.1.2.2.2.1, projBottom := a.1.2.2.2.2, eyeToHeadQ := a.2.1
        eyeToHeadP := a.2.2 })
    (fun m => (((m.eyeWidth, m.eyeHeight, m.refreshHz, m.ipdM),
      m.projLeft, m.projRight, m.projTop, m.projBottom), m.eyeToHeadQ, m.eyeToHeadP))
    (fun _ => rfl) (fun _ => rfl)

def poseUpdate : Packed PoseUpdate :=
  ((uint64.pair (uint8.pair (uint8.pair (pad 6)))).pair (uint64.array 13)).map
    (fun a =>
      { timeQpc := a.1.1, device := a.1.2.1, connected := a.1.2.2.1
        qw := a.2 0, qx := a.2 1, qy := a.2 2, qz := a.2 3
        px := a.2 4, py := a.2 5, pz := a.2 6
        vx := a.2 7, vy := a.2 8, vz := a.2 9
        wx := a.2 10, wy := a.2 11, wz := a.2 12 })
    (fun m => ((m.timeQpc, m.device, m.connected, ()),
      ![m.qw, m.qx, m.qy, m.qz, m.px, m.py, m.pz, m.vx, m.vy, m.vz, m.wx, m.wy, m.wz]))
    (fun _ => rfl)
    (fun a => by
      refine Prod.ext rfl (funext fun i => ?_)
      fin_cases i <;> rfl)

/-- `DeviceAdd` and `DeviceRemove`. -/
def device : Packed UInt8 :=
  (uint8.pair (pad 3)).map (fun a => a.1) (fun m => (m, ())) (fun _ => rfl) (fun _ => rfl)

def inputUpdate : Packed InputUpdate :=
  ((uint64.pair (uint8.pair (pad 3))).pair ((uint32.pair uint32).pair
    (uint32.pair (uint32.pair (uint32.pair uint32))))).map
    (fun a =>
      { timeQpc := a.1.1, device := a.1.2.1, pressed := a.2.1.1, touched := a.2.1.2
        trigger := a.2.2.1, grip := a.2.2.2.1, thumbstickX := a.2.2.2.2.1
        thumbstickY := a.2.2.2.2.2 })
    (fun m => ((m.timeQpc, m.device, ()), (m.pressed, m.touched),
      m.trigger, m.grip, m.thumbstickX, m.thumbstickY))
    (fun _ => rfl) (fun _ => rfl)

def stagingConfig : Packed StagingConfig :=
  ((uint32.pair (uint32.pair (uint32.pair (uint32.pair uint32)))).pair
    ((pad 4).pair (uint64.array 3))).map
    (fun a => ⟨a.1.1, a.1.2.1, a.1.2.2.1, a.1.2.2.2.1, a.1.2.2.2.2, a.2.2⟩)
    (fun m => ((m.generation, m.width, m.height, m.dxgiFormat, m.count), (), m.handles))
    (fun _ => rfl) (fun _ => rfl)

def frameReady : Packed FrameReady :=
  ((uint64.pair (uint64.pair (uint32.pair uint32))).pair
    ((uint32.pair (uint32.pair (uint32.pair uint32))).pair
      (uint32.pair (uint32.pair (uint32.pair uint32))))).map
    (fun a => ⟨a.1.1, a.1.2.1, a.1.2.2.1, a.1.2.2.2, a.2.1.1, a.2.1.2.1, a.2.1.2.2.1,
      a.2.1.2.2.2, a.2.2.1, a.2.2.2.1, a.2.2.2.2.1, a.2.2.2.2.2⟩)
    (fun m => ((m.frameId, m.sampleTimeQpc, m.generation, m.stagingIndex),
      (m.qw, m.qx, m.qy, m.qz), m.px, m.py, m.pz, m.predictS))
    (fun _ => rfl) (fun _ => rfl)

def frameDone : Packed FrameDone :=
  (uint64.pair (uint32.pair uint32)).map (fun a => ⟨a.1, a.2.1, a.2.2⟩)
    (fun m => (m.frameId, m.stagingIndex, m.flags)) (fun _ => rfl) (fun _ => rfl)

end Layouts

/-! ## Messages -/

/-- The value of `ipc::MessageType`. -/
def code : MessageType → ℕ
  | .shimHello => 1
  | .keepAlive => 2
  | .haptic => 3
  | .helperHello => 100
  | .hmdConfig => 101
  | .poseUpdate => 102
  | .deviceAdd => 103
  | .deviceRemove => 104
  | .inputUpdate => 105
  | .stagingConfig => 200
  | .frameReady => 201
  | .frameDone => 202

/-- The struct of a type. -/
abbrev Content : MessageType → Type
  | .shimHello => ShimHello
  | .keepAlive => KeepAlive
  | .haptic => Haptic
  | .helperHello => HelperHello
  | .hmdConfig => HmdConfig
  | .poseUpdate => PoseUpdate
  | .deviceAdd => UInt8
  | .deviceRemove => UInt8
  | .inputUpdate => InputUpdate
  | .stagingConfig => StagingConfig
  | .frameReady => FrameReady
  | .frameDone => FrameDone

def layout : (t : MessageType) → Packed (Content t)
  | .shimHello => shimHello
  | .keepAlive => keepAlive
  | .haptic => haptic
  | .helperHello => helperHello
  | .hmdConfig => hmdConfig
  | .poseUpdate => poseUpdate
  | .deviceAdd => device
  | .deviceRemove => device
  | .inputUpdate => inputUpdate
  | .stagingConfig => stagingConfig
  | .frameReady => frameReady
  | .frameDone => frameDone

/-- A type and its struct. -/
structure Message where
  type : MessageType
  content : Content type

/-- The buffer of `send_message`. -/
def encode (m : Message) : List UInt8 := leBytes 4 (code m.type) ++ (layout m.type).put m.content

/-- The message in a buffer, `none` where the type is unknown or the size is not its own. -/
def decode (data : List UInt8) : Option Message :=
  match messageType (uint32 data) with
  | none => none
  | some t =>
    if data.length = 4 + (layout t).size then some ⟨t, (layout t).get (data.drop 4)⟩ else none

/-- The bytes of a message that mean something. -/
def mask (t : MessageType) : List Bool := List.replicate 4 true ++ (layout t).mask

/-! ## What the layouts make of the messages -/

/-- The sizes that the contract asserts. -/
def structSize : MessageType → ℕ
  | .shimHello => 12
  | .keepAlive => 8
  | .haptic => 20
  | .helperHello => 8
  | .hmdConfig => 104
  | .poseUpdate => 120
  | .deviceAdd => 4
  | .deviceRemove => 4
  | .inputUpdate => 36
  | .stagingConfig => 48
  | .frameReady => 56
  | .frameDone => 16

theorem layout_size (t : MessageType) : (layout t).size = structSize t := by
  cases t <;> rfl

theorem messageType_code (t : MessageType) : messageType (code t) = some t := by
  cases t <;> rfl

theorem code_of_messageType {n : ℕ} {t : MessageType} (h : messageType n = some t) :
    code t = n := by
  unfold messageType at h
  split at h <;> cases h <;> rfl

theorem code_lt (t : MessageType) : code t < 256 ^ 4 := by
  cases t <;> decide

theorem uint32_eq {data : List UInt8} (h : 4 ≤ data.length) :
    uint32 data = leValue (data.take 4) := by
  match data, h with
  | a :: b :: c :: d :: rest, _ =>
    simp only [uint32, List.take_succ_cons, List.take_zero, leValue]
    omega

theorem uint32_leBytes {n : ℕ} (h : n < 256 ^ 4) (rest : List UInt8) :
    uint32 (leBytes 4 n ++ rest) = n := by
  have hlength : 4 ≤ (leBytes 4 n ++ rest).length := by
    rw [List.length_append, length_leBytes]
    omega
  rw [uint32_eq hlength, List.take_left' (length_leBytes 4 n), leValue_leBytes h]

theorem uint32_encode (m : Message) : uint32 (encode m) = code m.type :=
  uint32_leBytes (code_lt m.type) _

theorem messageType_encode (m : Message) : messageType (uint32 (encode m)) = some m.type := by
  rw [uint32_encode, messageType_code]

theorem drop_encode (m : Message) : (encode m).drop 4 = (layout m.type).put m.content :=
  List.drop_left' (length_leBytes 4 _)

theorem length_encode (m : Message) : (encode m).length = 4 + structSize m.type := by
  rw [encode, List.length_append, length_leBytes, Packed.length_put', layout_size]

theorem decode_encode (m : Message) : decode (encode m) = some m := by
  unfold decode
  rw [messageType_encode, drop_encode]
  dsimp only
  rw [if_pos (by rw [length_encode, layout_size]), Packed.get_put']

/-- A buffer of the right size with this type reads as a message. -/
theorem decode_eq {data : List UInt8} {t : MessageType} (htype : messageType (uint32 data) = some t)
    (hlength : data.length = 4 + structSize t) :
    decode data = some ⟨t, (layout t).get (data.drop 4)⟩ := by
  unfold decode
  rw [htype]
  dsimp only
  rw [if_pos (by rw [hlength, layout_size])]

theorem decode_some {data : List UInt8} {m : Message} (h : decode data = some m) :
    messageType (uint32 data) = some m.type ∧ data.length = 4 + structSize m.type ∧
      m.content = (layout m.type).get (data.drop 4) := by
  unfold decode at h
  split at h
  · cases h
  · rename_i t htype
    split at h
    · rename_i hlength
      cases h
      rw [layout_size] at hlength
      exact ⟨htype, hlength, rfl⟩
    · cases h

/-- The first four bytes of a buffer are the code of its type. -/
theorem take_of_type {data : List UInt8} {t : MessageType} (h : 4 ≤ data.length)
    (htype : messageType (uint32 data) = some t) : data.take 4 = leBytes 4 (code t) := by
  have hlength : (data.take 4).length = 4 := List.length_take_of_le h
  rw [code_of_messageType htype, uint32_eq h]
  conv_lhs => rw [← leBytes_leValue (data.take 4), hlength]

theorem blank_mask {data : List UInt8} {t : MessageType} (h : 4 ≤ data.length) :
    blank (mask t) data = data.take 4 ++ blank (layout t).mask (data.drop 4) := by
  have hlength : (data.take 4).length = 4 := List.length_take_of_le h
  have hsplit : data = data.take 4 ++ data.drop 4 := (List.take_append_drop 4 data).symm
  conv_lhs => rw [hsplit]
  have hkept : blank (List.replicate 4 true) (data.take 4) = data.take 4 := by
    have hall := blank_true (data.take 4)
    rwa [hlength] at hall
  rw [mask, blank_append (by rw [hlength, List.length_replicate]), hkept]

/-- What is sent is read back and fits the buffers on both sides; what is read is exactly the
encodings, but for what stands in the padding. -/
theorem wire_format (m : Message) :
    decode (encode m) = some m ∧ (encode m).length ≤ maxMessageSize ∧
      ∀ data, decode data = some m ↔
        data.length = 4 + structSize m.type ∧ blank (mask m.type) data = encode m := by
  refine ⟨decode_encode m, ?_, ?_⟩
  · rw [length_encode]
    cases m.type <;> decide
  · intro data
    constructor
    · intro h
      obtain ⟨htype, hlength, hcontent⟩ := decode_some h
      have hfour : 4 ≤ data.length := by omega
      refine ⟨hlength, ?_⟩
      rw [blank_mask hfour, take_of_type hfour htype, encode, hcontent, Packed.put_get]
      rw [List.length_drop, hlength, ← layout_size]
      exact Nat.add_sub_cancel_left 4 _
    · rintro ⟨hlength, hblank⟩
      have hfour : 4 ≤ data.length := by omega
      rw [blank_mask hfour, encode] at hblank
      obtain ⟨hhead, htail⟩ := List.append_inj hblank
        (by rw [List.length_take_of_le hfour, length_leBytes])
      -- The type stands in the first four bytes, which have no padding
      have htype : messageType (uint32 data) = some m.type := by
        rw [uint32_eq hfour, hhead, leValue_leBytes (code_lt _), messageType_code]
      have hsize : (data.drop 4).length = (layout m.type).size := by
        rw [List.length_drop, hlength, layout_size]
        exact Nat.add_sub_cancel_left 4 _
      rw [decode_eq htype hlength]
      rw [← Packed.put_get _ _ hsize] at htail
      rw [Packed.put_injective _ htail]

end Wire

end WivrnNx
