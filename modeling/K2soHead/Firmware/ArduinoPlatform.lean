import K2soHead.Firmware.Gamepad
import K2soHead.Library.Mailboxes
import Mathlib.Data.List.FinRange
import Mathlib.Logic.Function.Basic

/-!
# `arduino_platform.c`

The bridge between CPU 0, which runs Bluetooth, and CPU 1, which runs the sketch.  CPU 0
seats each pad that becomes ready in one of `controllers_` and stores its reports there;
CPU 1 collects them, and sends requests back through `pending_queue_`.

Each callback of CPU 0 is taken whole.  The source does not guard all of them:
`arduino_on_device_disconnected` and `arduino_on_device_ready` write a seat (`vacateSeat`,
`assignSeat`) without `controller_mutex_`, so on the other core a copy can be torn by them.
Nothing of that is modelled, nor is the mutex, which keeps `storeData` and `collect` apart and
makes CPU 1 wait.  The FreeRTOS queue is a list with room for 16.

Virtual devices (a pad's mouse) are off unless the build or a command turns them on, and are not
modelled.
-/

namespace K2soHead

/-- `CONFIG_BLUEPAD32_MAX_DEVICES`. -/
def MAX_DEVICES : ℕ := 4

instance : NeZero MAX_DEVICES := ⟨by decide⟩

/-- An entry of `g_devices`. -/
abbrev DeviceIdx := Fin MAX_DEVICES

/-- An entry of `controllers_`. -/
abbrev SeatIdx := Fin MAX_DEVICES

def UNI_ARDUINO_GAMEPAD_INVALID : ℤ := -1

def MAX_PENDING_REQUESTS : ℕ := 16

/-- `bd_addr_t`; the zero address marks a free entry. -/
abbrev BdAddr := BitVec 48

/-- `uni_bt_conn_state_t`. -/
inductive ConnState where
  | deviceNone
  | deviceDiscovered
  | remoteNameRequest
  | remoteNameInquired
  | remoteNameFetched
  | sdpVendorRequested
  | sdpVendorFetched
  | sdpHidDescriptorRequested
  | sdpHidDescriptorFetched
  | l2capControlConnectionRequested
  | l2capControlConnected
  | l2capInterruptConnectionRequested
  | l2capInterruptConnected
  | devicePendingReady
  | deviceReady
  deriving DecidableEq

/-- Which functions of `uni_report_parser_t` a pad's parser provides. -/
structure ReportParser where
  setup : Bool := false
  setPlayerLeds : Bool := false
  setLightbarColor : Bool := false
  playDualRumble : Bool := false
  deriving DecidableEq

/-- `uni_hid_device_t`, with the platform's own data in it. -/
structure Device where
  btaddr : BdAddr := 0
  state : ConnState := .deviceNone
  connected : Bool := false
  controllerType : ℤ := 0
  vendorId : UInt16 := 0
  productId : UInt16 := 0
  reportParser : ReportParser := {}
  controller : ControllerData := {}
  /-- `arduino_instance_t`; cleared memory reads 0, which is not "unassigned" -/
  controllerIdx : ℤ := 0
  deriving DecidableEq

/-- `arduino_controller_properties_t`. -/
structure ControllerProperties where
  btaddr : BdAddr := 0
  type : UInt16 := 0
  subtype : UInt8 := 0
  vendorId : UInt16 := 0
  productId : UInt16 := 0
  flags : UInt16 := 0
  deriving DecidableEq

/-- `arduino_controller_t`, as `arduino_init` leaves it. -/
structure Seat where
  idx : ℤ := UNI_ARDUINO_GAMEPAD_INVALID
  data : ControllerData := {}
  dataUpdated : Bool := false
  properties : ControllerProperties := {}
  deriving DecidableEq

/-- `pending_request_cmd_t` with its arguments. -/
inductive PendingCmd where
  | lightbarColor (r g b : UInt8)
  | playerLeds (leds : UInt8)
  | rumble (delayedStart duration : UInt16) (weak strong : UInt8)
  | disconnect
  deriving DecidableEq

/-- `pending_request_t`; the seat was checked before the request was queued. -/
structure PendingRequest where
  controllerIdx : SeatIdx
  cmd : PendingCmd
  deriving DecidableEq

/-- What reaches a pad's parser, or the Bluetooth thread's own to-do list. -/
inductive PadCall where
  | setLightbarColor (r g b : UInt8)
  | setPlayerLeds (leds : UInt8)
  | playDualRumble (delayedStart duration : UInt16) (weak strong : UInt8)
  | disconnectDeviceSafe
  deriving DecidableEq

/-- `uni_error_t`, as `on_device_ready` answers it. -/
inductive UniError where
  | success
  | noSlots
  | invalidController
  deriving DecidableEq

/-- `UNI_ARDUINO_ERROR_..`. -/
inductive ArduinoError where
  | success
  | invalidDevice
  | noData
  deriving DecidableEq

/-- What passed through the platform, oldest first.  No code reads it. -/
structure PlatformHistory where
  /-- reports stored in, cleared from and collected from the seats -/
  mail : List (Mail SeatIdx ControllerData) := []
  /-- requests taken from the queue, with the pad they were carried out on -/
  taken : List (PendingRequest × Option DeviceIdx) := []
  calls : List (DeviceIdx × PadCall) := []

/-- The statics of `arduino_platform.c`, `uni_hid_device.c` and `uni_gamepad.c`. -/
structure Platform where
  gDevices : DeviceIdx → Device := fun _ => {}
  controllers : SeatIdx → Seat := fun _ => {}
  usedControllers : ℤ := 0
  pendingQueue : List PendingRequest := []
  remapping : Remapping := {}
  history : PlatformHistory := {}

namespace Platform

/-! ## Access -/

def setDevice (d : DeviceIdx) (f : Device → Device) (p : Platform) : Platform :=
  { p with gDevices := Function.update p.gDevices d (f (p.gDevices d)) }

def setSeat (i : SeatIdx) (f : Seat → Seat) (p : Platform) : Platform :=
  { p with controllers := Function.update p.controllers i (f (p.controllers i)) }

def record (f : PlatformHistory → PlatformHistory) (p : Platform) : Platform :=
  { p with history := f p.history }

def recordMail (m : Mail SeatIdx ControllerData) (p : Platform) : Platform :=
  p.record fun h => { h with mail := h.mail ++ [m] }

def recordTaken (r : PendingRequest) (d : Option DeviceIdx) (p : Platform) : Platform :=
  p.record fun h => { h with taken := h.taken ++ [(r, d)] }

/-- A call of a parser's function. -/
def call (d : DeviceIdx) (c : PadCall) (p : Platform) : Platform :=
  p.record fun h => { h with calls := h.calls ++ [(d, c)] }

/-! ### What each access leaves alone -/

section Fields

variable (p : Platform) (d : DeviceIdx) (i : SeatIdx)

@[simp] theorem gDevices_setDevice (f : Device → Device) :
    (p.setDevice d f).gDevices = Function.update p.gDevices d (f (p.gDevices d)) := rfl

@[simp] theorem controllers_setDevice (f : Device → Device) :
    (p.setDevice d f).controllers = p.controllers := rfl

@[simp] theorem usedControllers_setDevice (f : Device → Device) :
    (p.setDevice d f).usedControllers = p.usedControllers := rfl

@[simp] theorem pendingQueue_setDevice (f : Device → Device) :
    (p.setDevice d f).pendingQueue = p.pendingQueue := rfl

@[simp] theorem remapping_setDevice (f : Device → Device) :
    (p.setDevice d f).remapping = p.remapping := rfl

@[simp] theorem history_setDevice (f : Device → Device) :
    (p.setDevice d f).history = p.history := rfl

@[simp] theorem controllers_setSeat (f : Seat → Seat) :
    (p.setSeat i f).controllers = Function.update p.controllers i (f (p.controllers i)) := rfl

@[simp] theorem gDevices_setSeat (f : Seat → Seat) : (p.setSeat i f).gDevices = p.gDevices := rfl

@[simp] theorem usedControllers_setSeat (f : Seat → Seat) :
    (p.setSeat i f).usedControllers = p.usedControllers := rfl

@[simp] theorem pendingQueue_setSeat (f : Seat → Seat) :
    (p.setSeat i f).pendingQueue = p.pendingQueue := rfl

@[simp] theorem history_setSeat (f : Seat → Seat) : (p.setSeat i f).history = p.history := rfl

@[simp] theorem gDevices_record (f : PlatformHistory → PlatformHistory) :
    (p.record f).gDevices = p.gDevices := rfl

@[simp] theorem controllers_record (f : PlatformHistory → PlatformHistory) :
    (p.record f).controllers = p.controllers := rfl

@[simp] theorem usedControllers_record (f : PlatformHistory → PlatformHistory) :
    (p.record f).usedControllers = p.usedControllers := rfl

@[simp] theorem pendingQueue_record (f : PlatformHistory → PlatformHistory) :
    (p.record f).pendingQueue = p.pendingQueue := rfl

@[simp] theorem history_record (f : PlatformHistory → PlatformHistory) :
    (p.record f).history = f p.history := rfl

end Fields

/-- The entry of `controllers_` an `int` names, if it is in range. -/
def seatIdx (idx : ℤ) : Option SeatIdx :=
  if h : 0 ≤ idx ∧ idx < MAX_DEVICES then some ⟨idx.toNat, by omega⟩ else none

theorem seatIdx_eq_some {idx : ℤ} {i : SeatIdx} : seatIdx idx = some i ↔ idx = (i : ℕ) := by
  have hi : (i : ℕ) < MAX_DEVICES := i.isLt
  unfold seatIdx
  split
  · rename_i h
    rw [Option.some.injEq, Fin.ext_iff]
    constructor <;> intro heq <;> simp only at heq ⊢ <;> omega
  · rename_i h
    refine iff_of_false (by simp) ?_
    omega

@[simp] theorem seatIdx_natCast (i : SeatIdx) : seatIdx ((i : ℕ) : ℤ) = some i :=
  seatIdx_eq_some.mpr rfl

theorem seatIdx_invalid : seatIdx UNI_ARDUINO_GAMEPAD_INVALID = none := by decide

/-- The first seat nobody has. -/
def freeSeat (p : Platform) : Option SeatIdx :=
  (List.finRange MAX_DEVICES).find? fun i =>
    (p.controllers i).idx = UNI_ARDUINO_GAMEPAD_INVALID

/-- `uni_hid_device_get_instance_with_predicate` at `predicate_arduino_index`: only ready
devices are found. -/
def deviceAt (i : SeatIdx) (p : Platform) : Option DeviceIdx :=
  (List.finRange MAX_DEVICES).find? fun d =>
    (p.gDevices d).state = .deviceReady ∧ (p.gDevices d).controllerIdx = (i : ℕ)

/-! ## CPU 0: requests -/

/-- Carries a request out; a pad without the function ignores it. -/
def perform (d : DeviceIdx) (cmd : PendingCmd) (p : Platform) : Platform :=
  match cmd with
  | .lightbarColor r g b =>
      if (p.gDevices d).reportParser.setLightbarColor then p.call d (.setLightbarColor r g b) else p
  | .playerLeds leds =>
      if (p.gDevices d).reportParser.setPlayerLeds then p.call d (.setPlayerLeds leds) else p
  | .rumble delayedStart duration weak strong =>
      if (p.gDevices d).reportParser.playDualRumble then
        p.call d (.playDualRumble delayedStart duration weak strong)
      else p
  -- not now: functions further up the stack still hold the device
  | .disconnect => p.call d .disconnectDeviceSafe

/-- One turn of the loop of `process_pending_requests`; the flag says whether it goes on. -/
def receiveRequest (p : Platform) : Platform × Bool :=
  match p.pendingQueue with
  | [] => (p, false)
  | r :: rest =>
      let p := { p with pendingQueue := rest }
      match p.deviceAt r.controllerIdx with
      -- the loop returns, and the request is gone
      | none => (p.recordTaken r none, false)
      | some d => ((p.recordTaken r (some d)).perform d r.cmd, true)

section ReceiveRequest

variable (p : Platform)

theorem perform_eq (d : DeviceIdx) (cmd : PendingCmd) :
    ∃ cs, p.perform d cmd = p.record fun h => { h with calls := h.calls ++ cs } := by
  unfold perform
  cases cmd with
  | disconnect => exact ⟨_, rfl⟩
  | _ =>
    simp only
    split
    · exact ⟨_, rfl⟩
    · exact ⟨[], by simp [record]⟩

/-- A turn takes the head of the queue, and otherwise only records. -/
theorem receiveRequest_eq :
    ∃ ts cs, ts.map Prod.fst = p.pendingQueue.head?.toList ∧
      p.receiveRequest.1 = { p with pendingQueue := p.pendingQueue.tail }.record fun h =>
        { h with taken := h.taken ++ ts, calls := h.calls ++ cs } := by
  unfold receiveRequest
  cases hqueue : p.pendingQueue with
  | nil =>
    refine ⟨[], [], rfl, ?_⟩
    cases p
    cases hqueue
    simp [record]
  | cons r rest =>
    simp only [List.tail_cons]
    split
    · exact ⟨[(r, none)], [], rfl, by simp [recordTaken, record]⟩
    · rename_i d _
      obtain ⟨cs, hcs⟩ := perform_eq (recordTaken r (some d) { p with pendingQueue := rest }) d r.cmd
      rw [hcs]
      exact ⟨[(r, some d)], cs, rfl, rfl⟩

@[simp] theorem gDevices_receiveRequest : p.receiveRequest.1.gDevices = p.gDevices := by
  obtain ⟨ts, cs, -, h⟩ := p.receiveRequest_eq
  rw [h, gDevices_record]

@[simp] theorem controllers_receiveRequest :
    p.receiveRequest.1.controllers = p.controllers := by
  obtain ⟨ts, cs, -, h⟩ := p.receiveRequest_eq
  rw [h, controllers_record]

@[simp] theorem usedControllers_receiveRequest :
    p.receiveRequest.1.usedControllers = p.usedControllers := by
  obtain ⟨ts, cs, -, h⟩ := p.receiveRequest_eq
  rw [h, usedControllers_record]

@[simp] theorem pendingQueue_receiveRequest :
    p.receiveRequest.1.pendingQueue = p.pendingQueue.tail := by
  obtain ⟨ts, cs, -, h⟩ := p.receiveRequest_eq
  rw [h, pendingQueue_record]

@[simp] theorem mail_receiveRequest :
    p.receiveRequest.1.history.mail = p.history.mail := by
  obtain ⟨ts, cs, -, h⟩ := p.receiveRequest_eq
  rw [h, history_record]

end ReceiveRequest

/-- The loop, with as many turns as there are requests. -/
def drain : ℕ → Platform → Platform
  | 0, p => p
  | n + 1, p =>
      let next := p.receiveRequest
      if next.2 then drain n next.1 else next.1

def processPendingRequests (p : Platform) : Platform :=
  drain p.pendingQueue.length p

/-! ## CPU 0: what Bluetooth reports -/

def onDeviceConnected (d : DeviceIdx) (p : Platform) : Platform :=
  p.setDevice d fun dev => { dev with controllerIdx := UNI_ARDUINO_GAMEPAD_INVALID }

/-- Clears seat `i` and takes it from `d`. -/
def vacateSeat (d : DeviceIdx) (i : SeatIdx) (p : Platform) : Platform :=
  { p with usedControllers := p.usedControllers - 1 }
    |>.setSeat i (fun _ => {})
    |>.setDevice d (fun dev => { dev with controllerIdx := UNI_ARDUINO_GAMEPAD_INVALID })
    |>.recordMail (.clear i)

def onDeviceDisconnected (d : DeviceIdx) (p : Platform) : Platform :=
  if (p.gDevices d).controllerIdx = UNI_ARDUINO_GAMEPAD_INVALID then p
  else
    match seatIdx (p.gDevices d).controllerIdx with
    | none => p
    | some i => p.vacateSeat d i

/-- What `on_device_ready` writes about the device into its seat. -/
def propertiesOf (dev : Device) : ControllerProperties where
  btaddr := dev.btaddr
  type := UInt16.ofInt dev.controllerType
  -- the type again, cut to a byte
  subtype := UInt8.ofInt dev.controllerType
  vendorId := dev.vendorId
  productId := dev.productId
  flags :=
    (if dev.reportParser.setPlayerLeds then 2 else 0) |||
    (if dev.reportParser.playDualRumble then 1 else 0) |||
    (if dev.reportParser.setLightbarColor then 4 else 0)

/-- Seats `d` on `i`.  The data of the seat is not touched. -/
def assignSeat (d : DeviceIdx) (i : SeatIdx) (p : Platform) : Platform :=
  { p with usedControllers := p.usedControllers + 1 }
    |>.setSeat i (fun s => { s with idx := (i : ℕ), properties := propertiesOf (p.gDevices d) })
    |>.setDevice d fun dev => { dev with controllerIdx := (i : ℕ) }

/-- The player LEDs show the seat, counted from one. -/
def showSeat (d : DeviceIdx) (p : Platform) : Platform :=
  if (p.gDevices d).reportParser.setPlayerLeds then
    p.call d (.setPlayerLeds (UInt8.ofInt ((p.gDevices d).controllerIdx + 1)))
  else p

theorem showSeat_eq (p : Platform) (d : DeviceIdx) :
    ∃ cs, p.showSeat d = p.record fun h => { h with calls := h.calls ++ cs } := by
  unfold showSeat
  split
  · exact ⟨_, rfl⟩
  · exact ⟨[], by simp [record]⟩

@[simp] theorem gDevices_showSeat (p : Platform) (d : DeviceIdx) :
    (p.showSeat d).gDevices = p.gDevices := by
  obtain ⟨cs, h⟩ := p.showSeat_eq d
  rw [h, gDevices_record]

@[simp] theorem controllers_showSeat (p : Platform) (d : DeviceIdx) :
    (p.showSeat d).controllers = p.controllers := by
  obtain ⟨cs, h⟩ := p.showSeat_eq d
  rw [h, controllers_record]

@[simp] theorem usedControllers_showSeat (p : Platform) (d : DeviceIdx) :
    (p.showSeat d).usedControllers = p.usedControllers := by
  obtain ⟨cs, h⟩ := p.showSeat_eq d
  rw [h, usedControllers_record]

def onDeviceReady (d : DeviceIdx) (p : Platform) : Platform × UniError :=
  if p.usedControllers = MAX_DEVICES then (p, .noSlots)
  else if (p.gDevices d).controllerIdx ≠ UNI_ARDUINO_GAMEPAD_INVALID then (p, .invalidController)
  else
    match p.freeSeat with
    | none => (p.showSeat d, .success)
    | some i => ((p.assignSeat d i).showSeat d, .success)

/-- The part of `on_controller_data` under the mutex. -/
def storeData (d : DeviceIdx) (ctl : ControllerData) (p : Platform) : Platform :=
  match seatIdx (p.gDevices d).controllerIdx with
  | none => p
  | some i =>
      p.setSeat i (fun s => { s with data := ctl, dataUpdated := true })
        |>.recordMail (.post i ctl)

def onControllerData (d : DeviceIdx) (ctl : ControllerData) (p : Platform) : Platform :=
  p.processPendingRequests.storeData d ctl

/-! ## CPU 1 -/

/-- The check every call of CPU 1 starts with, outside the mutex. -/
def seatTaken (p : Platform) (i : SeatIdx) : Bool :=
  (p.controllers i).idx ≠ UNI_ARDUINO_GAMEPAD_INVALID

/-- The part of `arduino_get_controller_data` under the mutex. -/
def collect (i : SeatIdx) (p : Platform) : Platform × Option ControllerData :=
  let out := if (p.controllers i).dataUpdated then some (p.controllers i).data else none
  (p.setSeat i (fun s => { s with dataUpdated := false }) |>.recordMail (.collect i out), out)

def arduinoGetControllerProperties (idx : ℤ) (p : Platform) : Option ControllerProperties :=
  (seatIdx idx).bind fun i => if p.seatTaken i then some (p.controllers i).properties else none

/-- `xQueueSendToBack` that does not wait: a full queue drops the request. -/
def sendToBack (r : PendingRequest) (p : Platform) : Platform :=
  if p.pendingQueue.length < MAX_PENDING_REQUESTS then
    { p with pendingQueue := p.pendingQueue ++ [r] }
  else p

/-- The four calls that queue a request differ in the command only. -/
def arduinoRequest (cmd : PendingCmd) (idx : ℤ) (p : Platform) : Platform × ArduinoError :=
  match seatIdx idx with
  | none => (p, .invalidDevice)
  | some i => if p.seatTaken i then (p.sendToBack ⟨i, cmd⟩, .success) else (p, .invalidDevice)

section ArduinoRequest

variable (cmd : PendingCmd) (idx : ℤ) (p : Platform)

/-- A call that queues a request queues it or does nothing. -/
theorem arduinoRequest_eq :
    (p.arduinoRequest cmd idx).1 = p ∨
      ∃ i, seatIdx idx = some i ∧ p.pendingQueue.length < MAX_PENDING_REQUESTS ∧
        (p.arduinoRequest cmd idx).1 =
          { p with pendingQueue := p.pendingQueue ++ [⟨i, cmd⟩] } := by
  unfold arduinoRequest
  cases seatIdx idx with
  | none => exact .inl rfl
  | some i =>
    simp only
    split
    · unfold sendToBack
      split
      · exact .inr ⟨i, rfl, ‹_›, rfl⟩
      · exact .inl rfl
    · exact .inl rfl

@[simp] theorem gDevices_arduinoRequest :
    (p.arduinoRequest cmd idx).1.gDevices = p.gDevices := by
  rcases p.arduinoRequest_eq cmd idx with h | ⟨i, -, -, h⟩ <;> rw [h]

@[simp] theorem controllers_arduinoRequest :
    (p.arduinoRequest cmd idx).1.controllers = p.controllers := by
  rcases p.arduinoRequest_eq cmd idx with h | ⟨i, -, -, h⟩ <;> rw [h]

@[simp] theorem usedControllers_arduinoRequest :
    (p.arduinoRequest cmd idx).1.usedControllers = p.usedControllers := by
  rcases p.arduinoRequest_eq cmd idx with h | ⟨i, -, -, h⟩ <;> rw [h]

@[simp] theorem history_arduinoRequest :
    (p.arduinoRequest cmd idx).1.history = p.history := by
  rcases p.arduinoRequest_eq cmd idx with h | ⟨i, -, -, h⟩ <;> rw [h]

end ArduinoRequest

def arduinoSetPlayerLeds (idx : ℤ) (leds : UInt8) (p : Platform) : Platform × ArduinoError :=
  arduinoRequest (.playerLeds leds) idx p

def arduinoSetLightbarColor (idx : ℤ) (r g b : UInt8) (p : Platform) : Platform × ArduinoError :=
  arduinoRequest (.lightbarColor r g b) idx p

def arduinoPlayDualRumble (idx : ℤ) (delayedStart duration : UInt16) (weak strong : UInt8)
    (p : Platform) : Platform × ArduinoError :=
  arduinoRequest (.rumble delayedStart duration weak strong) idx p

def arduinoDisconnectController (idx : ℤ) (p : Platform) : Platform × ArduinoError :=
  arduinoRequest .disconnect idx p

end Platform

end K2soHead
