import K2soHead.Firmware.Board

/-!
# `gamepad_input.cpp`

The only file that touches Bluepad32.  One call of `BP32.update()` is an input of the
model: the connect and disconnect callbacks it makes, in order, and what the methods of
each controller slot answer afterwards.
-/

namespace K2soHead

/-- A `ControllerPtr` points at one of the library's slots. -/
abbrev ControllerPtr := ℕ

/-- The fields of a controller's latest report that the head reads. -/
structure Report where
  axisX : ℤ := 0
  axisY : ℤ := 0
  axisRX : ℤ := 0
  axisRY : ℤ := 0
  brake : ℤ := 0
  throttle : ℤ := 0
  buttons : UInt16 := 0
  miscButtons : UInt16 := 0
  dpad : UInt8 := 0
  deriving DecidableEq

/-- What the methods of one slot answer after `BP32.update()`. -/
structure Controller where
  isConnected : Bool
  isGamepad : Bool
  hasData : Bool
  report : Report

/-- A callback registered with `BP32.setup`. -/
inductive Callback where
  | connected (ctl : ControllerPtr)
  | disconnected (ctl : ControllerPtr)
  deriving DecidableEq

/-- One `BP32.update()`. -/
structure Bp32Update where
  callbacks : List Callback
  controller : ControllerPtr → Controller
  dataUpdated : Bool

/-- The plain state struct the rest of the firmware reads. -/
structure GamepadState where
  connected : Bool := false
  axisX : ℤ := 0
  axisY : ℤ := 0
  axisRX : ℤ := 0
  axisRY : ℤ := 0
  brake : ℤ := 0
  throttle : ℤ := 0
  buttons : UInt16 := 0
  dpad : UInt8 := 0
  a : Bool := false
  b : Bool := false
  x : Bool := false
  y : Bool := false
  l1 : Bool := false
  r1 : Bool := false
  select : Bool := false
  start : Bool := false
  dpadUp : Bool := false
  dpadDown : Bool := false
  dpadLeft : Bool := false
  dpadRight : Bool := false
  deriving DecidableEq

/-- The statics of `gamepad_input.cpp`. -/
structure GamepadInput where
  sController : Option ControllerPtr := none
  sState : GamepadState := {}

namespace GamepadInput

/-! ## Bit constants of Bluepad32 -/

def BUTTON_A : UInt16 := 0x1
def BUTTON_B : UInt16 := 0x2
def BUTTON_X : UInt16 := 0x4
def BUTTON_Y : UInt16 := 0x8
def BUTTON_SHOULDER_L : UInt16 := 0x10
def BUTTON_SHOULDER_R : UInt16 := 0x20
def MISC_BUTTON_SELECT : UInt16 := 0x2
def MISC_BUTTON_START : UInt16 := 0x4
def DPAD_UP : UInt8 := 0x1
def DPAD_DOWN : UInt8 := 0x2
def DPAD_RIGHT : UInt8 := 0x4
def DPAD_LEFT : UInt8 := 0x8

/-! ## Callbacks -/

def onConnected (ctl : ControllerPtr) (g : GamepadInput) : GamepadInput :=
  -- a second gamepad is accepted by Bluepad32 and ignored here
  if g.sController = none then { g with sController := some ctl } else g

def onDisconnected (ctl : ControllerPtr) (g : GamepadInput) : GamepadInput :=
  if g.sController = some ctl then { sController := none, sState := {} } else g

def callback (g : GamepadInput) : Callback → GamepadInput
  | .connected ctl => onConnected ctl g
  | .disconnected ctl => onDisconnected ctl g

/-! ## Polling -/

/-- The state copied out of a fresh report. -/
def decode (r : Report) : GamepadState where
  connected := true
  axisX := r.axisX
  axisY := r.axisY
  axisRX := r.axisRX
  axisRY := r.axisRY
  brake := r.brake
  throttle := r.throttle
  buttons := r.buttons
  dpad := r.dpad
  a := r.buttons &&& BUTTON_A != 0
  b := r.buttons &&& BUTTON_B != 0
  x := r.buttons &&& BUTTON_X != 0
  y := r.buttons &&& BUTTON_Y != 0
  l1 := r.buttons &&& BUTTON_SHOULDER_L != 0
  r1 := r.buttons &&& BUTTON_SHOULDER_R != 0
  select := r.miscButtons &&& MISC_BUTTON_SELECT != 0
  start := r.miscButtons &&& MISC_BUTTON_START != 0
  dpadUp := r.dpad &&& DPAD_UP != 0
  dpadDown := r.dpad &&& DPAD_DOWN != 0
  dpadLeft := r.dpad &&& DPAD_LEFT != 0
  dpadRight := r.dpad &&& DPAD_RIGHT != 0

/-- What one poll leaves in the state, once the callbacks have run. -/
def poll (u : Bp32Update) (g : GamepadInput) : GamepadInput :=
  match g.sController with
  -- only the flag is cleared: axes and buttons keep what they last held
  | none => { g with sState := { g.sState with connected := false } }
  | some ctl =>
      let c := u.controller ctl
      if !c.isConnected || !c.isGamepad then
        { g with sState := { g.sState with connected := false } }
      else if !c.hasData then
        -- no fresh report: the last state stands, `connected` included
        g
      else
        { g with sState := decode c.report }

/-- `GamepadInput::update`; the flag says whether Bluepad32 reported fresh data. -/
def update (u : Bp32Update) (g : GamepadInput) : GamepadInput × Bool :=
  (poll u (u.callbacks.foldl callback g), u.dataUpdated)

end GamepadInput

end K2soHead
