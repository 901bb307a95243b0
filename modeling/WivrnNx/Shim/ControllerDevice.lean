import WivrnNx.Session.InputState

/-!
# The controllers of the shim

`ControllerDevice::on_input_update` (shim/src/controller_device.cpp): what an `InputUpdate`
tells vrserver about the components of a controller. The time offset of the updates is
left out.
-/

namespace WivrnNx

/-- `ControllerDevice::BoolInput`. -/
inductive BoolInput
  | system
  | menu
  | primary
  | secondary
  | triggerClick
  | triggerTouch
  | gripClick
  | thumbstickClick
  | thumbstickTouch
deriving DecidableEq, Repr

/-- `ControllerDevice::ScalarInput`. -/
inductive ScalarInput
  | triggerValue
  | gripValue
  | thumbstickX
  | thumbstickY
deriving DecidableEq, Repr

/-- `UpdateBooleanComponent` and `UpdateScalarComponent`. -/
inductive ComponentUpdate
  | bool (input : BoolInput) (value : Bool)
  | scalar (input : ScalarInput) (value : FloatBits)
deriving DecidableEq, Repr

/-- `ControllerDevice`, and whether there is an `IVRDriverInput`. -/
structure ControllerDevice where
  device : UInt8
  activated : Bool := true
  connected : Bool := true
  driverInput : Bool := true
  /-- The handles that `create_components` got. -/
  boolHandle : BoolInput → Bool := fun _ => true
  scalarHandle : ScalarInput → Bool := fun _ => true

/-- The bits of `1.0f` and `-1.0f`. -/
def oneBits : FloatBits := 0x3F800000
def minusOneBits : FloatBits := 0xBF800000

/-- `clamp_unit`. -/
def clampUnit (v low high : FloatBits) : FloatBits :=
  if !Flt.beq (Flt.ofBits v) (Flt.ofBits v) then 0
  else if Flt.lt (Flt.ofBits v) (Flt.ofBits low) then low
  else if Flt.lt (Flt.ofBits high) (Flt.ofBits v) then high
  else v

namespace ControllerDevice

/-- `is_left`. -/
def isLeft (c : ControllerDevice) : Bool := c.device == leftController.byte

/-- `update_bool`. -/
def updateBool (c : ControllerDevice) (input : BoolInput) (value : Bool) : List ComponentUpdate :=
  if !c.boolHandle input then [] else if c.driverInput then [.bool input value] else []

/-- `update_scalar`. -/
def updateScalar (c : ControllerDevice) (input : ScalarInput) (value : FloatBits) :
    List ComponentUpdate :=
  if !c.scalarHandle input then [] else if c.driverInput then [.scalar input value] else []

/-- `on_input_update`. -/
def onInputUpdate (c : ControllerDevice) (update : InputUpdate) : List ComponentUpdate :=
  if update.device ≠ c.device then []
  else if !c.activated || !c.connected then []
  else
    let pressed := update.pressed
    let touched := update.touched
    c.updateBool .system (hasBit pressed .system) ++
    c.updateBool .menu (hasBit pressed .menu) ++
    (if c.isLeft then
      c.updateBool .primary (hasBit pressed .x) ++ c.updateBool .secondary (hasBit pressed .y)
    else
      c.updateBool .primary (hasBit pressed .a) ++ c.updateBool .secondary (hasBit pressed .b)) ++
    c.updateBool .triggerClick (hasBit pressed .triggerClick) ++
    c.updateBool .gripClick (hasBit pressed .gripClick) ++
    c.updateBool .thumbstickClick (hasBit pressed .thumbstickClick) ++
    c.updateBool .triggerTouch (hasBit touched .triggerTouch || hasBit pressed .triggerTouch) ++
    c.updateBool .thumbstickTouch
      (hasBit touched .thumbstickTouch || hasBit pressed .thumbstickTouch) ++
    c.updateScalar .triggerValue (clampUnit update.trigger 0 oneBits) ++
    c.updateScalar .gripValue (clampUnit update.grip 0 oneBits) ++
    c.updateScalar .thumbstickX (clampUnit update.thumbstickX minusOneBits oneBits) ++
    c.updateScalar .thumbstickY (clampUnit update.thumbstickY minusOneBits oneBits)

/-- The value that an update gives to a component. -/
def boolValue (c : ControllerDevice) (update : InputUpdate) : BoolInput → Bool
  | .system => hasBit update.pressed .system
  | .menu => hasBit update.pressed .menu
  | .primary => if c.isLeft then hasBit update.pressed .x else hasBit update.pressed .a
  | .secondary => if c.isLeft then hasBit update.pressed .y else hasBit update.pressed .b
  | .triggerClick => hasBit update.pressed .triggerClick
  | .gripClick => hasBit update.pressed .gripClick
  | .thumbstickClick => hasBit update.pressed .thumbstickClick
  | .triggerTouch => hasBit update.touched .triggerTouch || hasBit update.pressed .triggerTouch
  | .thumbstickTouch =>
    hasBit update.touched .thumbstickTouch || hasBit update.pressed .thumbstickTouch

/-- The controller takes the updates of its device while it is there. -/
def takes (c : ControllerDevice) (update : InputUpdate) : Bool :=
  update.device == c.device && c.activated && c.connected && c.driverInput

theorem mem_updateBool {c : ControllerDevice} {input x : BoolInput} {value v : Bool} :
    .bool x v ∈ c.updateBool input value ↔
      x = input ∧ v = value ∧ c.boolHandle input = true ∧ c.driverInput = true := by
  unfold updateBool
  cases c.boolHandle input <;> cases c.driverInput <;> simp

theorem not_mem_updateScalar {c : ControllerDevice} {input : ScalarInput} {value : FloatBits}
    {x : BoolInput} {v : Bool} : .bool x v ∉ c.updateScalar input value := by
  unfold updateScalar
  cases c.scalarHandle input <;> cases c.driverInput <;> simp

/-- Every component that was created gets its value, and no other. -/
theorem mem_onInputUpdate {c : ControllerDevice} {update : InputUpdate} {x : BoolInput} {v : Bool} :
    .bool x v ∈ c.onInputUpdate update ↔
      c.takes update = true ∧ c.boolHandle x = true ∧ v = c.boolValue update x := by
  unfold onInputUpdate takes
  by_cases hdevice : update.device = c.device
  · rw [if_neg (not_not.mpr hdevice), hdevice]
    cases c.activated with
    | false => simp
    | true =>
      cases c.connected with
      | false => simp
      | true =>
        simp only [Bool.not_true, Bool.or_self, Bool.false_eq_true, if_false, List.mem_append,
          mem_updateBool, not_mem_updateScalar, or_false, beq_self_eq_true, Bool.true_and]
        cases hleft : c.isLeft <;> cases x <;>
          simp [mem_updateBool, boolValue, hleft, and_comm, and_left_comm]
  · rw [if_pos hdevice]
    simp [hdevice]

end ControllerDevice

end WivrnNx
