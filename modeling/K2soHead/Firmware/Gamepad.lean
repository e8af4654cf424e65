import K2soHead.Firmware.GamepadInput

/-!
# `uni_gamepad.c`

The virtual gamepad every parser fills, and the remapping each report goes through before
the platform sees it.  `|=` into a field keeps the bits that fit the field.
-/

namespace K2soHead

/-- `uni_gamepad_t`. -/
structure Gamepad where
  dpad : UInt8 := 0
  axisX : ℤ := 0
  axisY : ℤ := 0
  axisRX : ℤ := 0
  axisRY : ℤ := 0
  brake : ℤ := 0
  throttle : ℤ := 0
  buttons : UInt16 := 0
  miscButtons : UInt8 := 0
  gyro : ℤ × ℤ × ℤ := (0, 0, 0)
  accel : ℤ × ℤ × ℤ := (0, 0, 0)
  deriving DecidableEq

/-- `uni_gamepad_mappings_type_t`. -/
inductive MappingsType where
  | xbox
  | switch
  | custom
  deriving DecidableEq

/-- `uni_gamepad_mappings_t`: the number of the new button, not its mask. -/
structure Mappings where
  dpadUp : UInt8 := 0
  dpadDown : UInt8 := 0
  dpadLeft : UInt8 := 0
  dpadRight : UInt8 := 0
  buttonA : UInt8 := 0
  buttonB : UInt8 := 0
  buttonX : UInt8 := 0
  buttonY : UInt8 := 0
  buttonShoulderL : UInt8 := 0
  buttonShoulderR : UInt8 := 0
  buttonTriggerL : UInt8 := 0
  buttonTriggerR : UInt8 := 0
  buttonThumbL : UInt8 := 0
  buttonThumbR : UInt8 := 0
  miscButtonSelect : UInt8 := 0
  miscButtonStart : UInt8 := 0
  miscButtonSystem : UInt8 := 0
  miscButtonCapture : UInt8 := 0
  axisX : UInt8 := 0
  axisY : UInt8 := 0
  axisRX : UInt8 := 0
  axisRY : UInt8 := 0
  axisXInverted : UInt8 := 0
  axisYInverted : UInt8 := 0
  axisRXInverted : UInt8 := 0
  axisRYInverted : UInt8 := 0
  brake : UInt8 := 0
  throttle : UInt8 := 0
  deriving DecidableEq

/-- The statics of `uni_gamepad.c`. -/
structure Remapping where
  mappingsType : MappingsType := .xbox
  map : Mappings := {}
  deriving DecidableEq

def GAMEPAD_DEFAULT_MAPPINGS : Mappings where
  dpadUp := 0
  dpadDown := 1
  dpadRight := 2
  dpadLeft := 3
  buttonA := 0
  buttonB := 1
  buttonX := 2
  buttonY := 3
  buttonShoulderL := 4
  buttonShoulderR := 5
  buttonTriggerL := 6
  buttonTriggerR := 7
  buttonThumbL := 8
  buttonThumbR := 9
  brake := 0
  throttle := 1
  axisX := 0
  axisY := 1
  axisRX := 2
  axisRY := 3
  miscButtonSystem := 0
  miscButtonSelect := 1
  miscButtonStart := 2
  miscButtonCapture := 3

namespace Gamepad

/-! ## Bits -/

/-- Every pressed source bit of the table sets its target bit. -/
def remapBits (pressed : ℕ) (table : List (ℕ × UInt8)) : ℕ :=
  table.foldl
    (fun bits entry =>
      if pressed.testBit entry.1 then bits ||| 1 <<< entry.2.toNat else bits) 0

/-- `BUTTON_A` .. `BUTTON_THUMB_R` are bits 0 .. 9. -/
def buttonTable (m : Mappings) : List (ℕ × UInt8) :=
  [(0, m.buttonA), (1, m.buttonB), (2, m.buttonX), (3, m.buttonY), (4, m.buttonShoulderL),
    (5, m.buttonShoulderR), (6, m.buttonTriggerL), (7, m.buttonTriggerR), (8, m.buttonThumbL),
    (9, m.buttonThumbR)]

def dpadTable (m : Mappings) : List (ℕ × UInt8) :=
  [(0, m.dpadUp), (1, m.dpadDown), (3, m.dpadLeft), (2, m.dpadRight)]

def miscTable (m : Mappings) : List (ℕ × UInt8) :=
  [(0, m.miscButtonSystem), (1, m.miscButtonSelect), (2, m.miscButtonStart),
    (3, m.miscButtonCapture)]

/-! ## Axes -/

def getMappingsValueForAxis (axisType : UInt8) (gp : Gamepad) : ℤ :=
  if axisType = 0 then gp.axisX
  else if axisType = 1 then gp.axisY
  else if axisType = 2 then gp.axisRX
  else if axisType = 3 then gp.axisRY
  else -1

def getMappingsValueForPedal (pedalType : UInt8) (gp : Gamepad) : ℤ :=
  if pedalType = 1 then gp.throttle
  else if pedalType = 0 then gp.brake
  else -1

/-- An axis looked up in the mapping and turned round if the mapping says so. -/
def mappedAxis (axisType inverted : UInt8) (gp : Gamepad) : ℤ :=
  if inverted ≠ 0 then -getMappingsValueForAxis axisType gp
  else getMappingsValueForAxis axisType gp

/-! ## `uni_gamepad_remap` -/

/-- A with B and X with Y; every other button stays. -/
def switchButtons (buttons : UInt16) : UInt16 :=
  let off := buttons &&& ~~~(GamepadInput.BUTTON_A ||| GamepadInput.BUTTON_B |||
    GamepadInput.BUTTON_X ||| GamepadInput.BUTTON_Y)
  let off := if buttons &&& GamepadInput.BUTTON_A ≠ 0 then off ||| GamepadInput.BUTTON_B else off
  let off := if buttons &&& GamepadInput.BUTTON_B ≠ 0 then off ||| GamepadInput.BUTTON_A else off
  let off := if buttons &&& GamepadInput.BUTTON_X ≠ 0 then off ||| GamepadInput.BUTTON_Y else off
  if buttons &&& GamepadInput.BUTTON_Y ≠ 0 then off ||| GamepadInput.BUTTON_X else off

def remap (r : Remapping) (gp : Gamepad) : Gamepad :=
  match r.mappingsType with
  | .xbox => gp
  | .switch => { gp with buttons := switchButtons gp.buttons }
  | .custom =>
      -- the new report starts from zero: gyro and accelerometer are not carried over
      { buttons := (remapBits gp.buttons.toNat (buttonTable r.map)).toUInt16
        dpad := (remapBits gp.dpad.toNat (dpadTable r.map)).toUInt8
        miscButtons := (remapBits gp.miscButtons.toNat (miscTable r.map)).toUInt8
        axisX := mappedAxis r.map.axisX r.map.axisXInverted gp
        axisY := mappedAxis r.map.axisY r.map.axisYInverted gp
        axisRX := mappedAxis r.map.axisRX r.map.axisRXInverted gp
        axisRY := mappedAxis r.map.axisRY r.map.axisRYInverted gp
        brake := getMappingsValueForPedal r.map.brake gp
        throttle := getMappingsValueForPedal r.map.throttle gp }

def setMappings (m : Mappings) (_ : Remapping) : Remapping := ⟨.custom, m⟩

def setMappingsType (type : MappingsType) (r : Remapping) : Remapping :=
  { r with mappingsType := type }

end Gamepad

/-- `uni_controller_class_t`. -/
inductive ControllerClass where
  | none
  | gamepad
  | mouse
  | keyboard
  | balanceBoard
  deriving DecidableEq

/-- `uni_controller_t`: the class, and the gamepad of the union. -/
structure ControllerData where
  klass : ControllerClass := .none
  gamepad : Gamepad := {}
  deriving DecidableEq

namespace ControllerData

/-- What the getters of `Controller` answer about the data of a gamepad. -/
def report (c : ControllerData) : Report where
  axisX := c.gamepad.axisX
  axisY := c.gamepad.axisY
  axisRX := c.gamepad.axisRX
  axisRY := c.gamepad.axisRY
  brake := c.gamepad.brake
  throttle := c.gamepad.throttle
  buttons := c.gamepad.buttons
  miscButtons := c.gamepad.miscButtons.toUInt16
  dpad := c.gamepad.dpad

end ControllerData

end K2soHead
