import K2soHead.Firmware.HidDevices

/-!
# `ArduinoBluepad32.cpp`, `ArduinoController.cpp`

`BP32.update()` on CPU 1 against the Bluetooth thread on CPU 0.  The update is cut at every
place where it reads what CPU 0 writes, and between two cuts CPU 0 may make any of its calls,
each taken whole: a run is an interleaving of whole calls of CPU 0 with the steps of CPU 1.
`UpdatePc` is where CPU 1 stands, and the lists in it are the seats a loop still has to visit.
-/

namespace K2soHead

/-- The fields of `Controller`. -/
structure ControllerObject where
  connected : Bool := false
  idx : ℤ := UNI_ARDUINO_GAMEPAD_INVALID
  data : ControllerData := {}
  properties : ControllerProperties := {}
  hasData : Bool := false

/-- Where `Bluepad32::update` stands, with its locals. -/
inductive UpdatePc where
  | idle
  /-- at the head of the first loop -/
  | check (rest : List SeatIdx) (connected : ℕ) (dataUpdated : Bool)
  /-- past the check of `arduino_get_controller_data`, before its mutex -/
  | read (i : SeatIdx) (rest : List SeatIdx) (connected : ℕ) (dataUpdated : Bool)
  /-- at the head of the second loop -/
  | diff (rest : List SeatIdx) (connected : ℕ) (dataUpdated : Bool)
  /-- past the check of `arduino_get_controller_properties`, before its mutex -/
  | fetch (i : SeatIdx) (rest : List SeatIdx) (connected : ℕ) (dataUpdated : Bool)

/-- The fields of `Bluepad32`, and what its updates have put out. -/
structure Bluepad32 where
  prevConnectedControllers : ℕ := 0
  controllers : SeatIdx → ControllerObject := fun _ => {}
  pc : UpdatePc := .idle
  /-- callbacks of the update under way -/
  calls : List Callback := []
  /-- updates that have returned, oldest first -/
  updates : List Bp32Update := []

/-- Both CPUs. -/
structure PadSystem where
  platform : Platform := {}
  bp32 : Bluepad32 := {}

namespace ControllerObject

/-- What the methods of a `Controller` answer. -/
def answer (c : ControllerObject) : Controller where
  isConnected := c.connected
  isGamepad := c.data.klass = .gamepad
  hasData := c.hasData
  report := c.data.report

end ControllerObject

namespace Bluepad32

def setController (i : SeatIdx) (f : ControllerObject → ControllerObject) (b : Bluepad32) :
    Bluepad32 :=
  { b with controllers := Function.update b.controllers i (f (b.controllers i)) }

@[simp] theorem controllers_setController (i : SeatIdx) (f : ControllerObject → ControllerObject)
    (b : Bluepad32) :
    (b.setController i f).controllers = Function.update b.controllers i (f (b.controllers i)) := rfl

def goto (pc : UpdatePc) (b : Bluepad32) : Bluepad32 := { b with pc := pc }

def callBack (cb : Callback) (b : Bluepad32) : Bluepad32 := { b with calls := b.calls ++ [cb] }

/-- What a `ControllerPtr` answers; past the slots there is nothing. -/
def controllerAt (b : Bluepad32) (ctl : ControllerPtr) : Controller :=
  if h : ctl < MAX_DEVICES then (b.controllers ⟨ctl, h⟩).answer else ⟨false, false, false, {}⟩

/-- The update returns. -/
def finish (dataUpdated : Bool) (b : Bluepad32) : Bluepad32 :=
  { b with
    pc := .idle
    calls := []
    updates := b.updates ++ [⟨b.calls, b.controllerAt, dataUpdated⟩] }

/-- `current == prev`, for one bit of the two masks. -/
def sameBit (i : SeatIdx) (connected prev : ℕ) : Bool :=
  connected &&& 1 <<< i.val = prev &&& 1 <<< i.val

/-- The seat answered: its data, or that there is none. -/
def collected (i : SeatIdx) (out : Option ControllerData) (b : Bluepad32) : Bluepad32 :=
  b.setController i fun c =>
    { c with
      data := out.getD c.data
      hasData := out.isSome
      idx := (i : ℕ) }

/-- The body of the second loop, up to the mutex of `onConnected`; `seatTaken` is its check. -/
def compare (seatTaken : SeatIdx → Bool) (i : SeatIdx) (rest : List SeatIdx) (connected : ℕ)
    (dataUpdated : Bool) (b : Bluepad32) : Bluepad32 :=
  if sameBit i connected b.prevConnectedControllers then b.goto (.diff rest connected dataUpdated)
  else if connected.testBit i.val then
    let b := b.setController i fun c => { c with connected := true }
    if (Platform.seatIdx (b.controllers i).idx).any seatTaken then
      b.goto (.fetch i rest connected dataUpdated)
    else
      -- the pad is gone again; it is announced all the same, with the old properties
      (b.callBack (.connected i.val)).goto (.diff rest connected dataUpdated)
  else
    let b := b.callBack (.disconnected i.val)
    (b.setController i fun c => { c with connected := false }).goto
      (.diff rest connected dataUpdated)

/-- The rest of `onConnected`, and the sketch's callback. -/
def announce (properties : SeatIdx → ControllerProperties) (i : SeatIdx) (b : Bluepad32) :
    Bluepad32 :=
  (b.setController i fun c =>
      { c with properties := ((Platform.seatIdx c.idx).map properties).getD c.properties })
    |>.callBack (.connected i.val)

end Bluepad32

namespace PadSystem

/-- One step of `Bluepad32::update`, up to the next thing that CPU 0 can change. -/
def advance (s : PadSystem) : PadSystem :=
  match s.bp32.pc with
  | .idle => { s with bp32 := s.bp32.goto (.check (List.finRange MAX_DEVICES) 0 false) }
  | .check (i :: rest) connected dataUpdated =>
      if s.platform.seatTaken i then
        { s with bp32 := s.bp32.goto (.read i rest connected dataUpdated) }
      else { s with bp32 := s.bp32.goto (.check rest connected dataUpdated) }
  | .read i rest connected dataUpdated =>
      let got := s.platform.collect i
      { platform := got.1
        bp32 := (s.bp32.collected i got.2).goto
          (.check rest (connected ||| 1 <<< i.val) (dataUpdated || got.2.isSome)) }
  | .check [] connected dataUpdated =>
      -- nothing connected or disconnected: no callbacks
      if connected = s.bp32.prevConnectedControllers then
        { s with bp32 := s.bp32.finish dataUpdated }
      else { s with bp32 := s.bp32.goto (.diff (List.finRange MAX_DEVICES) connected dataUpdated) }
  | .diff (i :: rest) connected dataUpdated =>
      { s with bp32 := s.bp32.compare s.platform.seatTaken i rest connected dataUpdated }
  | .fetch i rest connected dataUpdated =>
      { s with
        bp32 := (s.bp32.announce (fun j => (s.platform.controllers j).properties) i).goto
          (.diff rest connected dataUpdated) }
  | .diff [] connected dataUpdated =>
      { s with
        bp32 := { s.bp32 with prevConnectedControllers := connected }.finish dataUpdated }

/-- `Controller::disconnect`, `setPlayerLEDs`, `setColorLED` and `playDualRumble` check that
the controller is connected and queue their command under its index. -/
def request (i : SeatIdx) (cmd : PendingCmd) (s : PadSystem) : PadSystem :=
  if (s.bp32.controllers i).connected then
    { s with platform := (s.platform.arduinoRequest cmd (s.bp32.controllers i).idx).1 }
  else s

/-- A step of either CPU. -/
inductive Event where
  | cpu0 (e : Platform.BtEvent)
  | advance
  | request (i : SeatIdx) (cmd : PendingCmd)

def step (s : PadSystem) : Event → PadSystem
  | .cpu0 e => { s with platform := s.platform.btStep e }
  | .advance => s.advance
  | .request i cmd => s.request i cmd

end PadSystem

end K2soHead
