import K2soHead.Firmware.ArduinoPlatform

/-!
# `uni_hid_device.c`

The table of Bluetooth devices on CPU 0 and the calls the Bluetooth layers make on it.  The
life of an entry: created when a pad is found, connected when its channels are open, ready
when its parser has set it up, and disconnected and deleted in the end.  Every call is one step,
the platform's callback in it included; the virtual devices hanging off an entry, off by default,
are left out.
-/

namespace K2soHead

namespace Platform

/-! ## The table -/

/-- The first free entry. -/
def freeDevice (p : Platform) : Option DeviceIdx :=
  (List.finRange MAX_DEVICES).find? fun d => (p.gDevices d).btaddr = 0

/-- `uni_hid_device_create`. -/
def createDevice (address : BdAddr) (p : Platform) : Platform × Option DeviceIdx :=
  match p.freeDevice with
  | none => (p, none)
  | some d => (p.setDevice d fun _ => { btaddr := address }, some d)

/-- `uni_hid_device_get_instance_for_address`. -/
def getInstanceForAddress (address : BdAddr) (p : Platform) : Option DeviceIdx :=
  (List.finRange MAX_DEVICES).find? fun d => (p.gDevices d).btaddr = address

/-- `uni_bt_conn_set_state`. -/
def setState (d : DeviceIdx) (state : ConnState) (p : Platform) : Platform :=
  p.setDevice d fun dev => { dev with state := state }

/-- `uni_hid_device_connect`. -/
def connectDevice (d : DeviceIdx) (p : Platform) : Platform :=
  (p.setDevice d fun dev => { dev with connected := true }).onDeviceConnected d

/-- `uni_hid_device_disconnect`. -/
def disconnectDevice (d : DeviceIdx) (p : Platform) : Platform :=
  -- read before the connection is closed
  let connected := (p.gDevices d).connected
  let p := p.setDevice d fun dev => { dev with connected := false }
  if connected then p.onDeviceDisconnected d else p

/-- `uni_hid_device_delete`. -/
def deleteDevice (d : DeviceIdx) (p : Platform) : Platform :=
  p.setDevice d fun _ => {}

/-- The callers end a device with both calls in a row. -/
def dropDevice (d : DeviceIdx) (p : Platform) : Platform :=
  (p.disconnectDevice d).deleteDevice d

/-! ## Getting ready -/

/-- `uni_hid_device_set_ready_complete`. -/
def setReadyComplete (d : DeviceIdx) (p : Platform) : Platform × Bool :=
  if (p.gDevices d).state = .deviceReady then (p, false)
  else
    let ready := p.onDeviceReady d
    if ready.2 = .success then (ready.1.setState d .deviceReady, true)
    else (ready.1.dropDevice d, false)

/-- `uni_hid_device_set_ready`. -/
def setReady (d : DeviceIdx) (p : Platform) : Platform :=
  if (p.gDevices d).state = .devicePendingReady then p
  else
    let p := p.setState d .devicePendingReady
    -- a parser with a setup of its own reports completion itself, now or later
    if (p.gDevices d).reportParser.setup then p else (p.setReadyComplete d).1

/-- `device_connection_timeout`. -/
def deviceConnectionTimeout (d : DeviceIdx) (p : Platform) : Platform :=
  if (p.gDevices d).state = .deviceReady then p else p.dropDevice d

/-! ## Reports -/

/-- The report as `uni_hid_device_process_controller` hands it on. -/
def remapped (r : Remapping) (ctl : ControllerData) : ControllerData :=
  if ctl.klass = .gamepad then { ctl with gamepad := ctl.gamepad.remap r } else ctl

/-- A parser fills the device's data, and `uni_hid_device_process_controller` follows. -/
def processController (d : DeviceIdx) (ctl : ControllerData) (p : Platform) : Platform :=
  if (p.gDevices d).state = .deviceReady then
    let data := remapped p.remapping ctl
    (p.setDevice d fun dev => { dev with controller := data }).onControllerData d data
  else p.setDevice d fun dev => { dev with controller := ctl }

/-! ## Every call of the Bluetooth thread -/

/-- A state the Bluetooth layers set themselves; `uni_hid_device.c` alone makes a device
ready. -/
abbrev LayerState := { s : ConnState // s ≠ .deviceReady }

/-- What the Bluetooth thread does between two things CPU 1 does.  Requests are drained one
at a time, so that CPU 1 can queue more in between. -/
inductive BtEvent where
  | create (address : BdAddr)
  | identify (d : DeviceIdx) (type : ℤ) (vendorId productId : UInt16) (parser : ReportParser)
  | setState (d : DeviceIdx) (state : LayerState)
  | connect (d : DeviceIdx)
  | setReady (d : DeviceIdx)
  | setReadyComplete (d : DeviceIdx)
  /-- the service over BLE disconnects and leaves the entry to the link's own end -/
  | disconnect (d : DeviceIdx)
  | drop (d : DeviceIdx)
  | timeout (d : DeviceIdx)
  | receive
  | report (d : DeviceIdx) (ctl : ControllerData)

/-- A report once the requests are drained. -/
def reported (d : DeviceIdx) (ctl : ControllerData) (p : Platform) : Platform :=
  if (p.gDevices d).state = .deviceReady then
    let data := remapped p.remapping ctl
    (p.setDevice d fun dev => { dev with controller := data }).storeData d data
  else p.setDevice d fun dev => { dev with controller := ctl }

def btStep (p : Platform) : BtEvent → Platform
  | .create address => (p.createDevice address).1
  | .identify d type vendorId productId parser =>
      p.setDevice d fun dev =>
        { dev with
          controllerType := type
          vendorId := vendorId
          productId := productId
          reportParser := parser }
  | .setState d state => p.setState d state
  | .connect d => p.connectDevice d
  | .setReady d => p.setReady d
  | .setReadyComplete d => (p.setReadyComplete d).1
  | .disconnect d => p.disconnectDevice d
  | .drop d => p.dropDevice d
  | .timeout d => p.deviceConnectionTimeout d
  | .receive => p.receiveRequest.1
  | .report d ctl => p.reported d ctl

end Platform

end K2soHead
