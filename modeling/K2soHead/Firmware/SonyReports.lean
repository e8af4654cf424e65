import K2soHead.Firmware.Rumble
import Mathlib.Logic.Function.Iterate

/-!
# Reports to the Sony pads

`uni_crc32_le` of `uni_utils.c`, and how `uni_hid_parser_ds3.c`, `uni_hid_parser_ds4.c`,
`uni_hid_parser_ds5.c` and `uni_hid_parser_psmove.c` lay out an output report.  Of the packed
structs only the fields that some function sets are fields here; all other bytes are 0.
-/

namespace K2soHead

def CRCPOLY : UInt32 := 0xedb88320

/-- The body of the inner loop of `uni_crc32_le`. -/
def crcBit (crc : UInt32) : UInt32 :=
  let mult := if crc &&& 1 != 0 then CRCPOLY else 0
  (crc >>> 1) ^^^ mult

def uniCrc32Le (crc : UInt32) (data : List UInt8) : UInt32 :=
  data.foldl (fun crc byte => crcBit^[8] (crc ^^^ byte.toUInt32)) crc

/-- A `uint32_t` in memory. -/
def le32 (x : UInt32) : List UInt8 :=
  [x.toUInt8, (x >>> 8).toUInt8, (x >>> 16).toUInt8, (x >>> 24).toUInt8]

/-- The bytes of a report with `out->crc32` behind them. -/
def withCrc32 (bytes : List UInt8) : List UInt8 :=
  bytes ++ le32 (~~~(uniCrc32Le 0xffffffff bytes))

/-- `(HID_MESSAGE_TYPE_DATA << 4) | HID_REPORT_TYPE_OUTPUT` -/
def DATA_OUTPUT : UInt8 := (10 : UInt8) <<< (4 : UInt8) ||| 2

/-! ## DualShock 3 -/

/-- `ds3_output_report_t`. -/
structure Ds3OutputReport where
  motorRightDuration : UInt8 := 0
  motorRightEnabled : UInt8 := 0
  motorLeftDuration : UInt8 := 0
  motorLeftForce : UInt8 := 0
  playerLeds : UInt8 := 0

def Ds3OutputReport.bytes (out : Ds3OutputReport) : List UInt8 :=
  [0x52, 0x01, 0, out.motorRightDuration, out.motorRightEnabled, out.motorLeftDuration,
    out.motorLeftForce, 0, 0, 0, 0, out.playerLeds,
    0xff, 0x27, 0x10, 0x00, 0x32, 0xff, 0x27, 0x10, 0x00, 0x32,
    0xff, 0x27, 0x10, 0x00, 0x32, 0xff, 0x27, 0x10, 0x00, 0x32] ++ List.replicate 5 0

/-! ## DualShock 4 -/

/-- Blink, color and motors. -/
def DS4_FF_FLAG_BLINK_COLOR_RUMBLE : UInt8 := 7

/-- `ds4_output_report_t`. -/
structure Ds4OutputReport where
  flags : UInt8
  motorRight : UInt8 := 0
  motorLeft : UInt8 := 0
  ledRed : UInt8 := 0
  ledGreen : UInt8 := 0
  ledBlue : UInt8 := 0

/-- All of it but `crc32`. -/
def Ds4OutputReport.body (out : Ds4OutputReport) : List UInt8 :=
  [DATA_OUTPUT, 0x11, 0xc4, 0, out.flags, 0, 0, out.motorRight, out.motorLeft,
    out.ledRed, out.ledGreen, out.ledBlue, 0, 0] ++ List.replicate 61 0

/-! ## DualSense -/

def DS5_FLAG0_COMPATIBLE_VIBRATION : UInt8 := 0x01
def DS5_FLAG0_HAPTICS_SELECT : UInt8 := 0x02
def DS5_FLAG1_LIGHTBAR_CONTROL_ENABLE : UInt8 := 0x04
def DS5_FLAG1_PLAYER_LED_CONTROL_ENABLE : UInt8 := 0x10
def DS5_FLAG2_LIGHTBAR_SETUP_CONTROL_ENABLE : UInt8 := 0x02
def DS5_FLAG2_COMPATIBLE_VIBRATION2 : UInt8 := 0x04
def DS5_LIGHTBAR_SETUP_LIGHT_OUT : UInt8 := 0x02

/-- `ds5_output_report_t`. -/
structure Ds5OutputReport where
  validFlag0 : UInt8 := 0
  validFlag1 : UInt8 := 0
  motorRight : UInt8 := 0
  motorLeft : UInt8 := 0
  validFlag2 : UInt8 := 0
  lightbarSetup : UInt8 := 0
  playerLeds : UInt8 := 0
  lightbarRed : UInt8 := 0
  lightbarGreen : UInt8 := 0
  lightbarBlue : UInt8 := 0

/-- All of it but `crc32`. -/
def Ds5OutputReport.body (seqTag : UInt8) (out : Ds5OutputReport) : List UInt8 :=
  [DATA_OUTPUT, 0x31, seqTag, 0x10, out.validFlag0, out.validFlag1, out.motorRight,
    out.motorLeft] ++ List.replicate 34 0 ++
  [out.validFlag2, 0, 0, out.lightbarSetup, 0, out.playerLeds, out.lightbarRed,
    out.lightbarGreen, out.lightbarBlue] ++ List.replicate 24 0

/-! ## PS Move -/

/-- `psmove_output_report_t`. -/
structure PsMoveOutputReport where
  ledRgb : UInt8 × UInt8 × UInt8
  rumble : UInt8

def PsMoveOutputReport.bytes (out : PsMoveOutputReport) : List UInt8 :=
  [DATA_OUTPUT, 0x06, 0, out.ledRgb.1, out.ledRgb.2.1, out.ledRgb.2.2, 0, out.rumble, 0, 0]

end K2soHead
