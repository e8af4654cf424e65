import K2soHead.Firmware.GamepadInput

/-!
# `uni_hid_parser_wii.c`

The two Wii reports of Bluepad32 whose axes or triggers leave the range the head documents: the
uDraw tablet and the Wii U Pro controller.  A report starts from a cleared controller, and a
field that the head never reads, such as the battery, is left out.
-/

namespace K2soHead.Wii

open GamepadInput

def AXIS_NORMALIZE_RANGE : ℤ := 1024

def BUTTON_TRIGGER_L : UInt16 := 0x40
def BUTTON_TRIGGER_R : UInt16 := 0x80
def BUTTON_THUMB_L : UInt16 := 0x100
def BUTTON_THUMB_R : UInt16 := 0x200
def MISC_BUTTON_SYSTEM : UInt16 := 0x1

/-! ## Bytes -/

/-- `e[i]` -/
def byteAt (e : List UInt8) (i : ℕ) : UInt8 := e.getD i 0

/-- `(byte & mask) ? flag : 0` -/
def ifSet {α : Type} [Zero α] (byte mask : UInt8) (flag : α) : α :=
  if byte &&& mask != 0 then flag else 0

/-- `!(byte & mask) ? flag : 0` -/
def ifClear {α : Type} [Zero α] (byte mask : UInt8) (flag : α) : α :=
  if byte &&& mask != 0 then 0 else flag

/-! ## uDraw tablet -/

structure UdrawTablet where
  x : ℤ := 0
  y : ℤ := 0
  pressure : ℤ := 0
  button_lower : Bool := false
  button_upper : Bool := false

def processUdrawTablet (e : List UInt8) : UdrawTablet :=
  if e.length < 6 then
    {}
  else
    { x := (byteAt e 0).toNat + ((byteAt e 2 &&& 0x0f).toNat <<< 8 : ℕ)
      y := (byteAt e 1).toNat + ((byteAt e 2 &&& 0xf0).toNat <<< 4 : ℕ)
      pressure := (byteAt e 3).toNat + ((byteAt e 5 &&& 0x04).toNat <<< 5 : ℕ)
      button_upper := byteAt e 5 &&& 0x01 == 0
      button_lower := byteAt e 5 &&& 0x02 == 0 }

/-- The throttle of the tablet, from the pressure its comment puts at 8 to 380. -/
def udrawThrottle (pressure : ℤ) : ℤ := ((pressure - 8) * AXIS_NORMALIZE_RANGE).tdiv 380

/-- `process_drm_ke` with the tablet attached, in vertical mode. -/
def processDrmKe (report : List UInt8) : Report :=
  if report.length < 11 then
    {}
  else
    let n := processUdrawTablet (report.drop 3)
    let x :=
      if n.x < 2000 then
        ((n.x - 90) * AXIS_NORMALIZE_RANGE).tdiv 1955 - AXIS_NORMALIZE_RANGE.tdiv 2
      else 0
    let y :=
      if n.y < 2000 then
        ((n.y - 80) * AXIS_NORMALIZE_RANGE).tdiv 1450 - AXIS_NORMALIZE_RANGE.tdiv 2
      else 0
    let b1 := byteAt report 1
    let b2 := byteAt report 2
    { axisRX := x
      axisRY := y
      throttle := udrawThrottle n.pressure
      dpad := ifSet b1 0x01 DPAD_LEFT ||| ifSet b1 0x02 DPAD_RIGHT ||| ifSet b1 0x04 DPAD_DOWN |||
        ifSet b1 0x08 DPAD_UP
      buttons := (if n.button_upper then BUTTON_X else 0) |||
        (if n.button_lower then BUTTON_Y else 0) ||| ifSet b2 0x04 BUTTON_A |||
        ifSet b2 0x08 BUTTON_B ||| ifSet b2 0x02 BUTTON_SHOULDER_L |||
        ifSet b2 0x01 BUTTON_SHOULDER_R
      miscButtons := ifSet b2 0x80 MISC_BUTTON_SYSTEM ||| ifSet b2 0x10 MISC_BUTTON_SELECT |||
        ifSet b1 0x10 MISC_BUTTON_START }

/-! ## Wii U Pro controller -/

/-- One axis of `process_drm_kee`: twelve bits around `0x800`, scaled for the 1280 the stick is
said to reach and not cut off beyond it. -/
def uProAxis (low high : UInt8) : ℤ :=
  let raw : ℤ := low.toNat + ((high &&& 0x0f).toNat <<< 8 : ℕ) - 0x800
  (raw * 512).tdiv 1280

/-- `process_drm_kee` with a Wii U Pro controller. -/
def processDrmKee (report : List UInt8) : Report :=
  if report.length < 14 then
    {}
  else
    let data := byteAt (report.drop 3)
    let d8 := data 8
    let d9 := data 9
    let d10 := data 10
    -- on the wire every button is low-active
    { axisX := uProAxis (data 0) (data 1)
      axisY := -uProAxis (data 4) (data 5)
      axisRX := uProAxis (data 2) (data 3)
      axisRY := -uProAxis (data 6) (data 7)
      dpad := ifClear d8 0x80 DPAD_RIGHT ||| ifClear d8 0x40 DPAD_DOWN |||
        ifClear d9 0x02 DPAD_LEFT ||| ifClear d9 0x01 DPAD_UP
      buttons := ifClear d9 0x10 BUTTON_B ||| ifClear d9 0x40 BUTTON_A |||
        ifClear d9 0x08 BUTTON_Y ||| ifClear d9 0x20 BUTTON_X |||
        ifClear d9 0x80 BUTTON_TRIGGER_L ||| ifClear d9 0x04 BUTTON_TRIGGER_R |||
        ifClear d8 0x20 BUTTON_SHOULDER_L ||| ifClear d8 0x02 BUTTON_SHOULDER_R |||
        ifClear d10 0x02 BUTTON_THUMB_L ||| ifClear d10 0x01 BUTTON_THUMB_R
      miscButtons := ifClear d8 0x08 MISC_BUTTON_SYSTEM ||| ifClear d8 0x04 MISC_BUTTON_START |||
        ifClear d8 0x10 MISC_BUTTON_SELECT }

end K2soHead.Wii
