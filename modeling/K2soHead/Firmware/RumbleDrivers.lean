import K2soHead.Firmware.SwitchRumble

/-!
# The parsers that play a rumble

DualShock 3, DualShock 4, DualSense, PS Move, Wii, Switch, Stadia and Xbox.  Beside the rumble
each keeps what its LEDs need; the rest of its instance (calibration, setup, input reports) has
no part in either and is left out.
-/

namespace K2soHead

/-- `weak_magnitude` and `strong_magnitude`. -/
structure DualMagnitudes where
  weak : UInt8 := 0
  strong : UInt8 := 0
  deriving DecidableEq

/-! ## DualShock 3 -/

namespace Ds3

/-- `ds3_fsm_t`. -/
inductive Fsm where
  | uninit
  | requiresLedUpdate
  | ledUpdated
  deriving DecidableEq

/-- `ds3_instance_t`. -/
structure Instance where
  state : Fsm := .uninit
  playerLeds : UInt8 := 0
  cloneController : Bool := false
  rumbleWeakMagnitude : UInt16 := 0
  rumbleStrongMagnitude : UInt16 := 0

/-- `ds3_send_output_report`; a clone listens to the other channel. -/
def sendOutputReport (out : Ds3OutputReport) (ins : Instance) : Instance × List OutputReport :=
  (ins, if ins.cloneController then [.ctrl out.bytes, .intr out.bytes] else [.ctrl out.bytes])

/-- `ds3_update_led`. -/
def updateLed (playerLeds : UInt8) (ins : Instance) : Instance × List OutputReport :=
  sendOutputReport { playerLeds := playerLeds <<< 1 } { ins with state := .ledUpdated }

inductive Op where
  | setPlayerLeds (leds : UInt8)
  | inputReport

/-- `uni_hid_parser_ds3_set_player_leds`, and what `.._parse_input_report` does first. -/
def other (op : Op) (ins : Instance) : Instance × List OutputReport :=
  match op with
  | .setPlayerLeds leds =>
      let ins := { ins with playerLeds := leds }
      if ins.state = .ledUpdated then updateLed leds ins
      else ({ ins with state := .requiresLedUpdate }, [])
  | .inputReport =>
      if ins.state = .requiresLedUpdate then updateLed ins.playerLeds ins else (ins, [])

def driver : RumbleDriver Instance DualMagnitudes Op where
  hold m ins :=
    { ins with
      rumbleWeakMagnitude := m.weak.toUInt16
      rumbleStrongMagnitude := m.strong.toUInt16 }
  held ins := ⟨ins.rumbleWeakMagnitude.toUInt8, ins.rumbleStrongMagnitude.toUInt8⟩
  turnOn m ins :=
    sendOutputReport
      { motorRightDuration := 0xff
        motorRightEnabled := if m.weak != 0 then 1 else 0
        motorLeftDuration := 0xff
        motorLeftForce := m.strong
        playerLeds := ins.playerLeds <<< 1 } ins
  turnOff ins := sendOutputReport { playerLeds := ins.playerLeds <<< 1 } ins
  stopsIn s := s = .inProgress
  stopAsserts s := s = .inProgress
  other op _ ins := other op ins

end Ds3

/-! ## DualShock 4 -/

namespace Ds4

/-- `ds4_instance_t`. -/
structure Instance where
  rumbleWeakMagnitude : UInt16 := 0
  rumbleStrongMagnitude : UInt16 := 0
  prevColorRed : UInt8 := 0
  prevColorGreen : UInt8 := 0
  prevColorBlue : UInt8 := 0
  prevRumbleWeakMagnitude : UInt8 := 0
  prevRumbleStrongMagnitude : UInt8 := 0

/-- `ds4_send_output_report`. -/
def sendOutputReport (out : Ds4OutputReport) : List OutputReport := [.intr (withCrc32 out.body)]

/-- `ds4_send_enable_lightbar_report`. -/
def sendEnableLightbarReport (ins : Instance) : Instance × List OutputReport :=
  let ins :=
    { ins with
      prevColorRed := 0x00
      prevColorGreen := 0x00
      prevColorBlue := 0x40
      prevRumbleWeakMagnitude := 0x00
      prevRumbleStrongMagnitude := 0x00 }
  (ins, sendOutputReport
    { flags := DS4_FF_FLAG_BLINK_COLOR_RUMBLE
      ledRed := ins.prevColorRed
      ledGreen := ins.prevColorGreen
      ledBlue := ins.prevColorBlue })

/-- The arguments of `uni_hid_parser_ds4_set_lightbar_color`. -/
structure Op where
  r : UInt8
  g : UInt8
  b : UInt8

/-- `uni_hid_parser_ds4_set_lightbar_color`. -/
def setLightbarColor (op : Op) (ins : Instance) : Instance × List OutputReport :=
  let ins := { ins with prevColorRed := op.r, prevColorGreen := op.g, prevColorBlue := op.b }
  (ins, sendOutputReport
    { flags := DS4_FF_FLAG_BLINK_COLOR_RUMBLE
      ledRed := op.r
      ledGreen := op.g
      ledBlue := op.b
      motorRight := ins.prevRumbleWeakMagnitude
      motorLeft := ins.prevRumbleStrongMagnitude })

def driver : RumbleDriver Instance DualMagnitudes Op where
  hold m ins :=
    { ins with
      rumbleWeakMagnitude := m.weak.toUInt16
      rumbleStrongMagnitude := m.strong.toUInt16 }
  held ins := ⟨ins.rumbleWeakMagnitude.toUInt8, ins.rumbleStrongMagnitude.toUInt8⟩
  turnOn m ins :=
    ({ ins with
        prevRumbleWeakMagnitude := m.weak
        prevRumbleStrongMagnitude := m.strong },
      sendOutputReport
        { flags := DS4_FF_FLAG_BLINK_COLOR_RUMBLE
          motorRight := m.weak
          motorLeft := m.strong
          ledRed := ins.prevColorRed
          ledGreen := ins.prevColorGreen
          ledBlue := ins.prevColorBlue })
  turnOff ins :=
    ({ ins with
        prevRumbleWeakMagnitude := 0
        prevRumbleStrongMagnitude := 0 },
      sendOutputReport
        { flags := DS4_FF_FLAG_BLINK_COLOR_RUMBLE
          ledRed := ins.prevColorRed
          ledGreen := ins.prevColorGreen
          ledBlue := ins.prevColorBlue })
  stopsIn s := s ≠ .disabled
  stopAsserts s := s = .inProgress
  other op _ ins := setLightbarColor op ins

/-- After `uni_hid_parser_ds4_setup`. -/
def setup : RumblePad Instance DualMagnitudes where
  ins := (sendEnableLightbarReport {}).1
  sent := (sendEnableLightbarReport {}).2

end Ds4

/-! ## DualSense -/

namespace Ds5

/-- `ds5_instance_t`. -/
structure Instance where
  rumbleWeakMagnitude : UInt16 := 0
  rumbleStrongMagnitude : UInt16 := 0
  outputSeq : UInt8 := 0
  useVibration2 : Bool := false

/-- `ds5_send_output_report`: the sequence number goes from 0 to 14. -/
def sendOutputReport (out : Ds5OutputReport) (ins : Instance) : Instance × List OutputReport :=
  let seqTag := ins.outputSeq <<< 4
  let next := ins.outputSeq + 1
  ({ ins with outputSeq := if next = 15 then 0 else next }, [.intr (withCrc32 (out.body seqTag))])

/-- What the rumble functions share. -/
def vibration (out : Ds5OutputReport) (ins : Instance) : Ds5OutputReport :=
  if ins.useVibration2 then
    { out with validFlag2 := out.validFlag2 ||| DS5_FLAG2_COMPATIBLE_VIBRATION2 }
  else { out with validFlag0 := out.validFlag0 ||| DS5_FLAG0_COMPATIBLE_VIBRATION }

/-- `led_values` of `uni_hid_parser_ds5_set_player_leds`. -/
def ledValues (value : UInt8) : UInt8 := [0x00, 0x04, 0x0a, 0x15, 0x1b].getD (value.toNat % 5) 0

inductive Op where
  | setPlayerLeds (value : UInt8)
  | setLightbarColor (r g b : UInt8)
  /-- the firmware report tells how to rumble -/
  | firmwareVersion (useVibration2 : Bool)
  /-- `ds5_send_enable_lightbar_report` -/
  | enableLightbar

def other (op : Op) (ins : Instance) : Instance × List OutputReport :=
  match op with
  | .setPlayerLeds value =>
      sendOutputReport
        { playerLeds := ledValues value
          validFlag1 := DS5_FLAG1_PLAYER_LED_CONTROL_ENABLE } ins
  | .setLightbarColor r g b =>
      sendOutputReport
        { lightbarRed := r
          lightbarGreen := g
          lightbarBlue := b
          validFlag1 := DS5_FLAG1_LIGHTBAR_CONTROL_ENABLE } ins
  | .firmwareVersion useVibration2 => ({ ins with useVibration2 := useVibration2 }, [])
  | .enableLightbar =>
      sendOutputReport
        { lightbarBlue := 255
          validFlag1 := DS5_FLAG1_LIGHTBAR_CONTROL_ENABLE
          validFlag2 := DS5_FLAG2_LIGHTBAR_SETUP_CONTROL_ENABLE
          lightbarSetup := DS5_LIGHTBAR_SETUP_LIGHT_OUT } ins

def driver : RumbleDriver Instance DualMagnitudes Op where
  hold m ins :=
    { ins with
      rumbleWeakMagnitude := m.weak.toUInt16
      rumbleStrongMagnitude := m.strong.toUInt16 }
  held ins := ⟨ins.rumbleWeakMagnitude.toUInt8, ins.rumbleStrongMagnitude.toUInt8⟩
  turnOn m ins :=
    sendOutputReport
      (vibration
        { validFlag0 := DS5_FLAG0_HAPTICS_SELECT
          motorRight := m.weak
          motorLeft := m.strong } ins) ins
  turnOff ins := sendOutputReport (vibration { validFlag0 := DS5_FLAG0_HAPTICS_SELECT } ins) ins
  stopsIn s := s ≠ .disabled
  stopAsserts s := s ≠ .disabled
  other op _ ins := other op ins

end Ds5

/-! ## PS Move -/

namespace PsMove

/-- `psmove_instance_t`; a delayed start and the LEDs share `rumble_magnitude`. -/
structure Instance where
  ledRgb : UInt8 × UInt8 × UInt8 := (0, 0, 0)
  rumbleMagnitude : UInt16 := 0

def sendOutputReport (out : PsMoveOutputReport) : List OutputReport := [.intr out.bytes]

/-- `uni_hid_parser_psmove_set_lightbar_color`. -/
def setLightbarColor (rgb : UInt8 × UInt8 × UInt8) (ins : Instance) :
    Instance × List OutputReport :=
  ({ ins with ledRgb := rgb }, sendOutputReport ⟨rgb, ins.rumbleMagnitude.toUInt8⟩)

/-- The pad has one motor: `uni_hid_parser_psmove_play_dual_rumble` takes the larger magnitude. -/
def request (r : RumbleRequest DualMagnitudes) : RumbleRequest UInt8 :=
  ⟨r.startDelayMs, r.durationMs, max r.magnitudes.weak r.magnitudes.strong⟩

def driver : RumbleDriver Instance UInt8 (UInt8 × UInt8 × UInt8) where
  hold m ins := { ins with rumbleMagnitude := m.toUInt16 }
  held ins := ins.rumbleMagnitude.toUInt8
  turnOn m ins := ({ ins with rumbleMagnitude := m.toUInt16 }, sendOutputReport ⟨ins.ledRgb, m⟩)
  turnOff ins := ({ ins with rumbleMagnitude := 0 }, sendOutputReport ⟨ins.ledRgb, 0⟩)
  stopsIn s := s = .inProgress
  stopAsserts s := s = .inProgress
  other op _ ins := setLightbarColor op ins

end PsMove

/-! ## Wii -/

namespace Wii

def WIIPROTO_REQ_RUMBLE : UInt8 := 0x10
def WIIPROTO_REQ_LED : UInt8 := 0x11

/-- `wii_mode_t`. -/
inductive Mode where
  | horizontal
  | vertical
  | accel
  deriving DecidableEq

/-- `wii_instance_t`; `ready` is `state >= WII_FSM_LED_UPDATED`. -/
structure Instance where
  ready : Bool := false
  mode : Mode := .horizontal
  gamepadSeat : UInt8 := 0

/-- `wii_set_led`. -/
def setLed (seat : UInt8) (s : RumbleState) (ins : Instance) : List OutputReport :=
  let led := seat <<< 4
  let led := if ins.mode = .vertical then led ||| 0x80 else led
  let led := if ins.mode = .accel then led ||| 0x40 else led
  let led := if s = .inProgress then led ||| 0x01 else led
  [.intr [0xa2, WIIPROTO_REQ_LED, led]]

inductive Op where
  | setPlayerLeds (leds : UInt8)
  | setMode (mode : Mode)
  /-- an extension came or went, and the setup starts over -/
  | restart
  /-- `wii_fsm_update_led`, the end of the setup -/
  | updateLed

def other (op : Op) (s : RumbleState) (ins : Instance) : Instance × List OutputReport :=
  match op with
  | .setPlayerLeds leds =>
      let ins := { ins with gamepadSeat := leds }
      (ins, if ins.ready then setLed leds s ins else [])
  | .setMode mode => ({ ins with mode := mode }, [])
  | .restart => ({ ins with ready := false }, [])
  | .updateLed => ({ ins with ready := true }, setLed ins.gamepadSeat s ins)

/-- The magnitudes are not looked at. -/
def request (r : RumbleRequest DualMagnitudes) : RumbleRequest Unit :=
  ⟨r.startDelayMs, r.durationMs, ()⟩

def driver : RumbleDriver Instance Unit Op where
  ready ins := ins.ready
  hold _ ins := ins
  held _ := ()
  turnOn _ ins := (ins, [.intr [0xa2, WIIPROTO_REQ_RUMBLE, 0x01]])
  turnOff ins := (ins, [.intr [0xa2, WIIPROTO_REQ_RUMBLE, 0x00]])
  stopsIn s := s = .inProgress
  stopAsserts s := s = .inProgress
  other := other

end Wii

/-! ## Switch -/

namespace Switch

def OUTPUT_RUMBLE_AND_SUBCMD : UInt8 := 0x01
def OUTPUT_RUMBLE_ONLY : UInt8 := 0x10
def SUBCMD_SET_PLAYER_LEDS : UInt8 := 0x30

/-- `switch_instance_t`, and the packet number, which all such pads share; `ready` is
`state >= STATE_READY`. -/
structure Instance where
  rumbleWeakMagnitude : UInt16 := 0
  rumbleStrongMagnitude : UInt16 := 0
  ready : Bool := false
  gamepadSeat : UInt8 := 0
  packetNum : UInt8 := 0

def nextPacketNum (packetNum : UInt8) : UInt8 := if packetNum + 1 > 0x0f then 0 else packetNum + 1

/-- `send_subcmd`; `data` is what the request has behind its packet number. -/
def sendSubcmd (reportId : UInt8) (data : List UInt8) (ins : Instance) :
    Instance × List OutputReport :=
  ({ ins with packetNum := nextPacketNum ins.packetNum },
    [.intr ([DATA_OUTPUT, reportId, ins.packetNum] ++ data)])

/-- `set_led`; the subcommand goes out with no rumble data. -/
def setLed (leds : UInt8) (ins : Instance) : Instance × List OutputReport :=
  sendSubcmd OUTPUT_RUMBLE_AND_SUBCMD
    (List.replicate 8 0 ++ [SUBCMD_SET_PLAYER_LEDS, leds &&& 0x0f]) { ins with gamepadSeat := leds }

inductive Op where
  | setPlayerLeds (leds : UInt8)
  /-- a step of the setup, and whether it was the last one -/
  | setup (subcmd : List UInt8) (ready : Bool)
  /-- another pad sent a packet -/
  | otherPad

def other (op : Op) (ins : Instance) : Instance × List OutputReport :=
  match op with
  | .setPlayerLeds leds =>
      let ins := { ins with gamepadSeat := leds }
      if ins.ready then setLed leds ins else (ins, [])
  | .setup subcmd ready =>
      sendSubcmd OUTPUT_RUMBLE_AND_SUBCMD (List.replicate 8 0 ++ subcmd) { ins with ready := ready }
  | .otherPad => ({ ins with packetNum := nextPacketNum ins.packetNum }, [])

def driver : RumbleDriver Instance DualMagnitudes Op where
  hold m ins :=
    { ins with
      rumbleWeakMagnitude := m.weak.toUInt16
      rumbleStrongMagnitude := m.strong.toUInt16 }
  held ins := ⟨ins.rumbleWeakMagnitude.toUInt8, ins.rumbleStrongMagnitude.toUInt8⟩
  turnOn m ins :=
    let weak := m.weak.toUInt16
    let strong := m.strong.toUInt16
    sendSubcmd OUTPUT_RUMBLE_ONLY
      (encodeRumble (weak <<< 2) weak 500 ++ encodeRumble (strong <<< 2) strong 500) ins
  turnOff ins :=
    sendSubcmd OUTPUT_RUMBLE_ONLY [0x00, 0x01, 0x40, 0x40, 0x00, 0x01, 0x40, 0x40] ins
  stopsIn s := s ≠ .disabled
  stopAsserts s := s = .inProgress
  other op _ ins := other op ins

end Switch

/-! ## Stadia -/

namespace Stadia

def STADIA_RUMBLE_REPORT_ID : UInt8 := 0x05

/-- `stadia_instance_t`. -/
structure Instance where
  rumbleWeakMagnitude : UInt16 := 0
  rumbleStrongMagnitude : UInt16 := 0

/-- `stadia_ff_report`: two `uint16_t` with the magnitudes in their high bytes. -/
def sendReport (m : DualMagnitudes) : List OutputReport :=
  [.hids STADIA_RUMBLE_REPORT_ID [0, m.strong, 0, m.weak]]

def driver : RumbleDriver Instance DualMagnitudes Empty where
  hold m _ := ⟨m.weak.toUInt16, m.strong.toUInt16⟩
  held ins := ⟨ins.rumbleWeakMagnitude.toUInt8, ins.rumbleStrongMagnitude.toUInt8⟩
  turnOn m ins := (ins, sendReport m)
  turnOff ins := (ins, sendReport {})
  stopsIn s := s ≠ .disabled
  stopAsserts s := s ≠ .disabled
  checksStatus _ := true
  other op _ _ := op.elim

end Stadia

/-! ## Xbox -/

namespace XboxOne

def XBOX_RUMBLE_REPORT_ID : UInt8 := 0x03

/-- `xboxone_firmware`. -/
inductive Firmware where
  | v3_1
  | v4_8
  | v5
  deriving DecidableEq

/-- The motors of the pad and of its triggers. -/
structure QuadMagnitudes where
  triggerLeft : UInt8 := 0
  triggerRight : UInt8 := 0
  weak : UInt8 := 0
  strong : UInt8 := 0
  deriving DecidableEq

/-- `xboxone_instance_t`. -/
structure Instance where
  version : Firmware := .v3_1
  rumble : QuadMagnitudes := {}

/-- The pad wants 0 to 100. -/
def percent (magnitude : UInt8) : UInt8 := (magnitude.toUInt16 * 100 / 255).toUInt8

/-- The actuators a request is for. -/
def mask (m : QuadMagnitudes) : UInt8 :=
  (if m.triggerLeft != 0 then 0x08 else 0) ||| (if m.triggerRight != 0 then 0x04 else 0) |||
    (if m.weak != 0 then 0x01 else 0) ||| (if m.strong != 0 then 0x02 else 0)

/-- Version 5 is the one over BLE, where the first two bytes of the report are not sent. -/
def sendReport (actuators : UInt8) (m : QuadMagnitudes) (duration10ms loopCount : UInt8)
    (ins : Instance) : List OutputReport :=
  let data :=
    [actuators, percent m.triggerLeft, percent m.triggerRight, percent m.strong, percent m.weak,
      duration10ms, 0, loopCount]
  if ins.version = .v5 then [.hids XBOX_RUMBLE_REPORT_ID data]
  else [.intr ([DATA_OUTPUT, XBOX_RUMBLE_REPORT_ID] ++ data)]

/-- `uni_hid_parser_xboxone_play_dual_rumble`: no rumble of the triggers. -/
def request (r : RumbleRequest DualMagnitudes) : RumbleRequest QuadMagnitudes :=
  ⟨r.startDelayMs, r.durationMs, { weak := r.magnitudes.weak, strong := r.magnitudes.strong }⟩

/-- `Op` is the version that an input report gives away. -/
def driver : RumbleDriver Instance QuadMagnitudes Firmware where
  hold m ins := { ins with rumble := m }
  held ins := ins.rumble
  turnOn m ins := (ins, sendReport (mask m) m 0xff 25 ins)
  turnOff ins := (ins, sendReport 0x0f {} 0 0 ins)
  stopsIn s := s ≠ .disabled
  stopAsserts s := s ≠ .disabled
  checksStatus ins := ins.version = .v5
  other version _ ins := ({ ins with version := version }, [])

end XboxOne

end K2soHead
