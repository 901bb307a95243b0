import WivrnNx.Bridge
import WivrnNx.Flt
import WivrnNx.Lib.Numerals

/-!
# The state of the buttons

`Session::on_inputs` (wivrn/session.cpp): the values of a packet, in the order in which the
runtime lists them, are put into the `InputUpdate` of their controller, and the controllers that
were named are published. The states are kept from packet to packet.

`onInputs_bits` says what a bit of `pressed` and of `touched` is after any packets, in terms of
the reports of that bit alone.
-/

open scoped Numerals

namespace WivrnNx

/-- The value of a binary32. -/
def Flt.ofBits (bits : FloatBits) : Flt :=
  let exponent := ((bits >>> 23) &&& 0xFF).toNat
  let fraction := (bits &&& 0x7FFFFF).toNat
  let sign : ℚ := if bits >>> 31 = 0 then 1 else -1
  if exponent = 255 then
    if fraction ≠ 0 then .nan else if bits >>> 31 = 0 then .posInf else .negInf
  else if exponent = 0 then .val (sign * (fraction / 2 ^ 149))
  else .val (sign * ((2 ^ 23 + fraction) * 2 ^ exponent / 2 ^ 150))

/-- `value != 0.f`; a NaN is not zero. -/
def notZero (value : FloatBits) : Bool := !Flt.beq (Flt.ofBits value) (.val 0)

/-- `ipc::Button`. -/
inductive Button
  | system
  | menu
  | a
  | b
  | x
  | y
  | triggerClick
  | triggerTouch
  | gripClick
  | thumbstickClick
  | thumbstickTouch
deriving DecidableEq, Repr

/-- The place of a button in the masks. -/
def Button.index : Button → ℕ
  | .system => 0
  | .menu => 1
  | .a => 2
  | .b => 3
  | .x => 4
  | .y => 5
  | .triggerClick => 6
  | .triggerTouch => 7
  | .gripClick => 8
  | .thumbstickClick => 9
  | .thumbstickTouch => 10

/-- The value of the enumerator. -/
def Button.bit (button : Button) : UInt32 := 1 <<< UInt32.ofNat button.index

/-- `has_bit`. -/
def hasBit (mask : UInt32) (button : Button) : Bool := mask &&& button.bit != 0

/-- The inputs of `wivrn::device_id`. -/
inductive InputId
  | xClick | xTouch | yClick | yTouch | menuClick
  | aClick | aTouch | bClick | bTouch | systemClick
  | leftTriggerClick | leftTriggerTouch | leftSqueezeClick
  | leftThumbstickClick | leftThumbstickTouch
  | rightTriggerClick | rightTriggerTouch | rightSqueezeClick
  | rightThumbstickClick | rightThumbstickTouch
  | leftTriggerValue | rightTriggerValue | leftSqueezeValue | rightSqueezeValue
  | leftThumbstickX | leftThumbstickY | rightThumbstickX | rightThumbstickY
  | other (code : ℕ)
deriving DecidableEq, Repr

def leftController : Device := 1
def rightController : Device := 2

/-- `ButtonMapping`. -/
structure ButtonMapping where
  id : InputId
  device : Device
  button : Button
  touch : Bool
deriving DecidableEq, Repr

/-- `kButtons`. -/
def kButtons : List ButtonMapping :=
  [⟨.xClick, leftController, .x, false⟩,
    ⟨.xTouch, leftController, .x, true⟩,
    ⟨.yClick, leftController, .y, false⟩,
    ⟨.yTouch, leftController, .y, true⟩,
    ⟨.menuClick, leftController, .menu, false⟩,
    ⟨.leftTriggerClick, leftController, .triggerClick, false⟩,
    ⟨.leftTriggerTouch, leftController, .triggerTouch, true⟩,
    ⟨.leftSqueezeClick, leftController, .gripClick, false⟩,
    ⟨.leftThumbstickClick, leftController, .thumbstickClick, false⟩,
    ⟨.leftThumbstickTouch, leftController, .thumbstickTouch, true⟩,
    ⟨.aClick, rightController, .a, false⟩,
    ⟨.aTouch, rightController, .a, true⟩,
    ⟨.bClick, rightController, .b, false⟩,
    ⟨.bTouch, rightController, .b, true⟩,
    ⟨.systemClick, rightController, .system, false⟩,
    ⟨.rightTriggerClick, rightController, .triggerClick, false⟩,
    ⟨.rightTriggerTouch, rightController, .triggerTouch, true⟩,
    ⟨.rightSqueezeClick, rightController, .gripClick, false⟩,
    ⟨.rightThumbstickClick, rightController, .thumbstickClick, false⟩,
    ⟨.rightThumbstickTouch, rightController, .thumbstickTouch, true⟩]

/-- The loop over `kButtons`, up to its `break`. -/
def buttonMapping (id : InputId) : Option ButtonMapping := kButtons.find? fun m => m.id = id

/-- What the loop does to the state of the controller. -/
def ButtonMapping.apply (m : ButtonMapping) (state : InputUpdate) (down : Bool) : InputUpdate :=
  let bit := m.button.bit
  if m.touch then
    { state with touched := if down then state.touched ||| bit else state.touched &&& ~~~bit }
  else
    -- A click implies a touch
    { state with
      pressed := if down then state.pressed ||| bit else state.pressed &&& ~~~bit
      touched := if down then state.touched ||| bit else state.touched }

/-- A `float` member of `InputUpdate`. -/
inductive InputAxis
  | trigger
  | grip
  | thumbstickX
  | thumbstickY
deriving DecidableEq, Repr

def InputAxis.set (state : InputUpdate) (value : FloatBits) : InputAxis → InputUpdate
  | .trigger => { state with trigger := value }
  | .grip => { state with grip := value }
  | .thumbstickX => { state with thumbstickX := value }
  | .thumbstickY => { state with thumbstickY := value }

/-- The `switch` behind the buttons. -/
def axisMapping : InputId → Option (Device × InputAxis)
  | .leftTriggerValue => some (leftController, .trigger)
  | .rightTriggerValue => some (rightController, .trigger)
  | .leftSqueezeValue => some (leftController, .grip)
  | .rightSqueezeValue => some (rightController, .grip)
  | .leftThumbstickX => some (leftController, .thumbstickX)
  | .leftThumbstickY => some (leftController, .thumbstickY)
  | .rightThumbstickX => some (rightController, .thumbstickX)
  | .rightThumbstickY => some (rightController, .thumbstickY)
  | _ => none

/-- One entry of `inputs.values`. -/
abbrev InputValue := InputId × FloatBits

/-- `input_state_` and `touched_device`, as the loop over the values has them. -/
structure InputLoop where
  state : Device → InputUpdate
  touchedDevice : Device → Bool := fun _ => false

section Inputs

/- The test for bit patterns of finite values; it decides about axes only. -/
variable (isFinite : FloatBits → Bool)

/-- The body of the loop. -/
def onValue (l : InputLoop) (value : InputValue) : InputLoop :=
  match buttonMapping value.1 with
  | some m =>
    { state := Function.update l.state m.device (m.apply (l.state m.device) (notZero value.2))
      touchedDevice := Function.update l.touchedDevice m.device true }
  | none =>
    match axisMapping value.1 with
    | some (device, axis) =>
      { state := Function.update l.state device
          (if isFinite value.2 then axis.set (l.state device) value.2 else l.state device)
        touchedDevice := Function.update l.touchedDevice device true }
    | none => l

/-- `Session::on_inputs`: `input_state_` afterwards, and what goes to `Bridge::set_input`. -/
def onInputs (timeQpc : UInt64) (inputState : Device → InputUpdate) (values : List InputValue) :
    (Device → InputUpdate) × List InputUpdate :=
  let l := values.foldl (onValue isFinite) { state := inputState }
  let state : Device → InputUpdate := fun i =>
    if decide (1 ≤ i.val) && l.touchedDevice i then
      { l.state i with timeQpc := timeQpc, device := i.byte }
    else l.state i
  (state, [leftController, rightController].filterMap fun i =>
    if l.touchedDevice i then some (state i) else none)

/-- A packet, and the time at which it is handled. -/
structure InputsPacket where
  timeQpc : UInt64
  values : List InputValue
deriving DecidableEq, Repr

/-- `input_state_` after a sequence of packets. -/
def inputStates (packets : List InputsPacket) : Device → InputUpdate :=
  packets.foldl (fun s p => (onInputs isFinite p.timeQpc s p.values).1) fun _ => { device := 0 }

/-- What is published of a packet that comes behind others. -/
def publishedAfter (past : List InputsPacket) (packet : InputsPacket) : List InputUpdate :=
  (onInputs isFinite packet.timeQpc (inputStates isFinite past) packet.values).2

end Inputs

/-- The controller that an input belongs to. -/
def valueDevice (id : InputId) : Option Device :=
  match buttonMapping id with
  | some m => some m.device
  | none => (axisMapping id).map Prod.fst

/-! ## Masks -/

theorem Button.bit_toBitVec (button : Button) :
    button.bit.toBitVec = BitVec.twoPow 32 button.index := by
  cases button <;> decide

theorem Button.index_lt (button : Button) : button.index < 32 := by
  cases button <;> decide

theorem hasBit_eq (mask : UInt32) (button : Button) :
    hasBit mask button = mask.toBitVec.getLsbD button.index := by
  have hmask : (mask &&& button.bit = 0) ↔ mask.toBitVec.getLsbD button.index = false := by
    rw [← UInt32.toBitVec_inj, UInt32.toBitVec_and, button.bit_toBitVec, BitVec.and_twoPow]
    split
    · rename_i hbit
      rw [hbit]
      constructor
      · intro h
        have hone := congrArg (fun v => v.getLsbD button.index) h
        simp [button.index_lt] at hone
      · intro h
        cases h
    · rename_i hbit
      simpa using hbit
  rw [hasBit]
  cases hbit : mask.toBitVec.getLsbD button.index with
  | false => simp [hmask.mpr hbit]
  | true =>
    rw [bne_iff_ne]
    intro hzero
    rw [hmask.mp hzero] at hbit
    cases hbit

theorem getLsbD_or_bit (mask : UInt32) (button : Button) (k : ℕ) :
    (mask ||| button.bit).toBitVec.getLsbD k =
      (mask.toBitVec.getLsbD k || decide (button.index = k)) := by
  rw [UInt32.toBitVec_or, button.bit_toBitVec, BitVec.getLsbD_or, BitVec.getLsbD_twoPow]
  simp [button.index_lt]

theorem getLsbD_andNot_bit (mask : UInt32) (button : Button) (k : ℕ) :
    (mask &&& ~~~button.bit).toBitVec.getLsbD k =
      (mask.toBitVec.getLsbD k && !decide (button.index = k)) := by
  rw [UInt32.toBitVec_and, UInt32.toBitVec_not, button.bit_toBitVec, BitVec.getLsbD_and,
    BitVec.getLsbD_not, BitVec.getLsbD_twoPow]
  by_cases hk : k < 32
  · simp [hk, button.index_lt]
  · simp [BitVec.getLsbD_of_ge mask.toBitVec k (by omega)]

/-! ## The reports of a bit -/

/-- A value of a button: whether it is about the touch or the click, and which. -/
structure ButtonReport where
  touch : Bool
  down : Bool
deriving DecidableEq, Repr

/-- What a value says about a bit of the masks of a controller. -/
def reportOf (i : Device) (k : ℕ) (value : InputValue) : Option ButtonReport :=
  (buttonMapping value.1).bind fun m =>
    if m.device = i ∧ m.button.index = k then some { touch := m.touch, down := notZero value.2 }
    else none

def reportsOf (i : Device) (k : ℕ) (values : List InputValue) : List ButtonReport :=
  values.filterMap (reportOf i k)

/-- The bit of `pressed`: a click is what its last report says. -/
def clickStep (held : Bool) (r : ButtonReport) : Bool := if r.touch then held else r.down

/-- The bit of `touched`: every report moves it, but for the end of a click. -/
def touchStep (held : Bool) (r : ButtonReport) : Bool := if r.touch then r.down else held || r.down

def clickHeld (reports : List ButtonReport) : Bool := reports.foldl clickStep false

def touchHeld (reports : List ButtonReport) : Bool := reports.foldl touchStep false

theorem apply_bits (m : ButtonMapping) (state : InputUpdate) (down : Bool) (k : ℕ) :
    (m.apply state down).pressed.toBitVec.getLsbD k =
        (if m.button.index = k then
          clickStep (state.pressed.toBitVec.getLsbD k) { touch := m.touch, down := down }
        else state.pressed.toBitVec.getLsbD k) ∧
      (m.apply state down).touched.toBitVec.getLsbD k =
        if m.button.index = k then
          touchStep (state.touched.toBitVec.getLsbD k) { touch := m.touch, down := down }
        else state.touched.toBitVec.getLsbD k := by
  unfold ButtonMapping.apply clickStep touchStep
  by_cases hk : m.button.index = k
  · cases m.touch <;> cases down <;>
      simp only [Bool.false_eq_true, if_true, if_false, getLsbD_or_bit, getLsbD_andNot_bit, hk] <;>
      simp
  · cases m.touch <;> cases down <;>
      simp only [Bool.false_eq_true, if_true, if_false, getLsbD_or_bit, getLsbD_andNot_bit, hk] <;>
      simp

/-- Axes are apart from the masks. -/
theorem InputAxis.set_masks (axis : InputAxis) (state : InputUpdate) (value : FloatBits) :
    (axis.set state value).pressed = state.pressed ∧
      (axis.set state value).touched = state.touched := by
  cases axis <;> exact ⟨rfl, rfl⟩

section Inputs

variable {isFinite : FloatBits → Bool}

/-- What one value does to a bit is what its report does, if it has one. -/
theorem onValue_bits (l : InputLoop) (value : InputValue) (i : Device) (k : ℕ) :
    ((onValue isFinite l value).state i).pressed.toBitVec.getLsbD k =
        (reportOf i k value).toList.foldl clickStep ((l.state i).pressed.toBitVec.getLsbD k) ∧
      ((onValue isFinite l value).state i).touched.toBitVec.getLsbD k =
        (reportOf i k value).toList.foldl touchStep ((l.state i).touched.toBitVec.getLsbD k) := by
  unfold onValue reportOf
  cases hm : buttonMapping value.1 with
  | some m =>
    dsimp only [Option.bind_some]
    by_cases hi : m.device = i
    · subst hi
      rw [Function.update_self]
      have hbits := apply_bits m (l.state m.device) (notZero value.2) k
      by_cases hk : m.button.index = k
      · rw [if_pos hk, if_pos hk] at hbits
        rw [if_pos ⟨rfl, hk⟩]
        exact hbits
      · rw [if_neg hk, if_neg hk] at hbits
        rw [if_neg fun h => hk h.2]
        exact hbits
    · rw [Function.update_of_ne (Ne.symm hi), if_neg fun h => hi h.1]
      exact ⟨rfl, rfl⟩
  | none =>
    dsimp only [Option.bind_none, Option.toList_none, List.foldl_nil]
    cases axisMapping value.1 with
    | none => exact ⟨rfl, rfl⟩
    | some target =>
      dsimp only
      by_cases hi : target.1 = i
      · subst hi
        rw [Function.update_self]
        split
        · rw [(target.2.set_masks _ _).1, (target.2.set_masks _ _).2]
          exact ⟨rfl, rfl⟩
        · exact ⟨rfl, rfl⟩
      · rw [Function.update_of_ne (Ne.symm hi)]
        exact ⟨rfl, rfl⟩

theorem foldl_onValue_bits (values : List InputValue) (l : InputLoop) (i : Device) (k : ℕ) :
    ((values.foldl (onValue isFinite) l).state i).pressed.toBitVec.getLsbD k =
        (reportsOf i k values).foldl clickStep ((l.state i).pressed.toBitVec.getLsbD k) ∧
      ((values.foldl (onValue isFinite) l).state i).touched.toBitVec.getLsbD k =
        (reportsOf i k values).foldl touchStep ((l.state i).touched.toBitVec.getLsbD k) := by
  induction values generalizing l with
  | nil => exact ⟨rfl, rfl⟩
  | cons value values ih =>
    have hcons : reportsOf i k (value :: values) =
        (reportOf i k value).toList ++ reportsOf i k values := by
      unfold reportsOf
      cases hr : reportOf i k value with
      | none => rw [List.filterMap_cons_none hr]; rfl
      | some r => rw [List.filterMap_cons_some hr]; rfl
    have hstep := @onValue_bits isFinite l value i k
    rw [List.foldl_cons, (ih _).1, (ih _).2, hcons, List.foldl_append, List.foldl_append,
      hstep.1, hstep.2]
    exact ⟨rfl, rfl⟩

/-- The controllers that are published are those the values belong to. -/
theorem foldl_onValue_touched (values : List InputValue) (l : InputLoop) (i : Device) :
    (values.foldl (onValue isFinite) l).touchedDevice i = true ↔
      l.touchedDevice i = true ∨ ∃ v ∈ values, valueDevice v.1 = some i := by
  induction values generalizing l with
  | nil => simp
  | cons value values ih =>
    have hstep : (onValue isFinite l value).touchedDevice i = true ↔
        l.touchedDevice i = true ∨ valueDevice value.1 = some i := by
      have hset : ∀ j, Function.update l.touchedDevice j true i = true ↔
          l.touchedDevice i = true ∨ j = i := by
        intro j
        by_cases hj : j = i
        · subst hj
          simp
        · simp [Function.update_of_ne (Ne.symm hj), hj]
      unfold onValue valueDevice
      cases buttonMapping value.1 with
      | some m => simpa using hset m.device
      | none =>
        cases axisMapping value.1 with
        | some target => simpa using hset target.1
        | none => simp
    rw [List.foldl_cons, ih, hstep, List.exists_mem_cons_iff, or_assoc]

/-- The masks after a packet are those that the loop leaves. -/
theorem onInputs_masks (timeQpc : UInt64) (s : Device → InputUpdate) (values : List InputValue)
    (i : Device) :
    ((onInputs isFinite timeQpc s values).1 i).pressed =
        ((values.foldl (onValue isFinite) { state := s }).state i).pressed ∧
      ((onInputs isFinite timeQpc s values).1 i).touched =
        ((values.foldl (onValue isFinite) { state := s }).state i).touched := by
  unfold onInputs
  dsimp only
  split <;> exact ⟨rfl, rfl⟩

theorem inputStates_append_singleton (past : List InputsPacket) (packet : InputsPacket) :
    inputStates isFinite (past ++ [packet]) =
      (onInputs isFinite packet.timeQpc (inputStates isFinite past) packet.values).1 := by
  rw [inputStates, List.foldl_append]
  rfl

/-- All the values of some packets, in order. -/
def allValues (packets : List InputsPacket) : List InputValue := packets.flatMap InputsPacket.values

/-- A bit of the masks is what the reports of this bit, in all packets, have made of it. -/
theorem inputStates_bits (packets : List InputsPacket) (i : Device) (k : ℕ) :
    (inputStates isFinite packets i).pressed.toBitVec.getLsbD k =
        clickHeld (reportsOf i k (allValues packets)) ∧
      (inputStates isFinite packets i).touched.toBitVec.getLsbD k =
        touchHeld (reportsOf i k (allValues packets)) := by
  induction packets using List.reverseRecOn with
  | nil => exact ⟨BitVec.getLsbD_zero, BitVec.getLsbD_zero⟩
  | append_singleton packets packet ih =>
    have hmasks := @onInputs_masks isFinite packet.timeQpc (inputStates isFinite packets)
      packet.values i
    have hbits := @foldl_onValue_bits isFinite packet.values
      { state := inputStates isFinite packets } i k
    have hall : reportsOf i k (allValues (packets ++ [packet])) =
        reportsOf i k (allValues packets) ++ reportsOf i k packet.values := by
      simp [reportsOf, allValues]
    rw [inputStates_append_singleton, hmasks.1, hmasks.2, hbits.1, hbits.2, ih.1, ih.2, hall]
    exact ⟨List.foldl_append.symm, List.foldl_append.symm⟩

/-- The packets publish the states of the controllers they name. -/
theorem mem_publishedAfter {past : List InputsPacket} {packet : InputsPacket} {u : InputUpdate} :
    u ∈ publishedAfter isFinite past packet ↔
      ∃ i ∈ [leftController, rightController],
        (∃ v ∈ packet.values, valueDevice v.1 = some i) ∧
          u = inputStates isFinite (past ++ [packet]) i := by
  rw [inputStates_append_singleton]
  unfold publishedAfter onInputs
  dsimp only
  rw [List.mem_filterMap]
  have htouched : ∀ i, (packet.values.foldl (onValue isFinite)
      { state := inputStates isFinite past }).touchedDevice i = true ↔
        ∃ v ∈ packet.values, valueDevice v.1 = some i := by
    intro i
    rw [foldl_onValue_touched]
    simp
  constructor
  · rintro ⟨i, hi, hu⟩
    split at hu
    · rename_i ht
      exact ⟨i, hi, (htouched i).mp ht, (Option.some.inj hu).symm⟩
    · cases hu
  · rintro ⟨i, hi, hnamed, rfl⟩
    exact ⟨i, hi, if_pos ((htouched i).mpr hnamed)⟩

/-- What is published of a controller says so. -/
theorem inputStates_device {past : List InputsPacket} {packet : InputsPacket} {i : Device}
    (hi : i ∈ [leftController, rightController])
    (hnamed : ∃ v ∈ packet.values, valueDevice v.1 = some i) :
    (inputStates isFinite (past ++ [packet]) i).device = i.byte := by
  rw [inputStates_append_singleton]
  unfold onInputs
  have ht : (packet.values.foldl (onValue isFinite)
      { state := inputStates isFinite past }).touchedDevice i = true :=
    (foldl_onValue_touched _ _ _).mpr (.inr hnamed)
  have hpos : 1 ≤ i.val := by
    rcases List.mem_cons.mp hi with rfl | hi
    · decide
    · rw [List.mem_singleton.mp hi]
      decide
  dsimp only
  rw [ht, decide_eq_true hpos]
  rfl

end Inputs

end WivrnNx
