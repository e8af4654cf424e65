import K2soHead.Firmware.AudioPlayer
import K2soHead.Firmware.GamepadInput
import K2soHead.Firmware.LedController
import K2soHead.Firmware.ServoController

/-!
# `eye_motion.cpp`

Easing of the two eye servos, idle behaviour, and the eye brightness level that blinking
and speech share.  A call reads the clock once, as `now`, and its random draws are given
by name, each within the bounds of its `random()` call.
-/

namespace K2soHead

/-! ## Constants -/

def kPanChannel : ℕ := 0
def kTiltChannel : ℕ := 1

def kGamepadEase : ExtRat := .fin (35 / 100)
def kIdleEase : ExtRat := .fin (22 / 100)
def kCenterPan : ExtRat := .fin 90
def kCenterTilt : ExtRat := .fin 90
def kIdleMinAngle : ExtRat := .fin 40
def kIdleMaxAngle : ExtRat := .fin 140
def kIdleMaxHop : ExtRat := .fin 55
def kIdleCenterPull : ExtRat := .fin (18 / 100)

def kIdleHoldMinMs : ℕ := 1400
def kIdleHoldMaxMs : ℕ := 5600
def kIdleStareChancePct : ℕ := 15
def kIdleStareMinMs : ℕ := 6000
def kIdleStareMaxMs : ℕ := 14000

def kBlinkClosedMs : ℕ := 120
def kBlinkOpenMs : ℕ := 90
def kBlinkGapMinMs : ℕ := 4500
def kBlinkGapMaxMs : ℕ := 13000

def kEyeRestLevel : UInt8 := 236
def kSpeechActiveLevel : UInt8 := 255
def kSpeechDipLevel : UInt8 := 70
def kSpeechDipWindowMs : ℕ := 450

def kStickActiveThreshold : ℤ := 80
def kIdleResumeMs : ℕ := 5000

/-! ## State and random draws -/

/-- The statics of `eye_motion.cpp`. -/
structure EyeMotion where
  sPan : ExtRat := kCenterPan
  sTilt : ExtRat := kCenterTilt
  sTargetPan : ExtRat := kCenterPan
  sTargetTilt : ExtRat := kCenterTilt
  sNextSaccadeMs : UInt32 := 0
  sNextBlinkMs : UInt32 := 0
  sBlinkStartMs : UInt32 := 0
  sBlinking : Bool := false
  sIdleResumeAtMs : UInt32 := 0
  sIdleEnabled : Bool := true
  sPanTrim : ExtRat
  sTiltTrim : ExtRat

/-- The eyes with everything `EyeMotion` reads or writes through. -/
structure Rig where
  motion : EyeMotion
  led : LedController
  servo : ServoController
  audio : AudioPlayer

/-- The draws of `scheduleSaccade`. -/
structure SaccadeDraws where
  chance : Fin 100
  stare : Fin (kIdleStareMaxMs - kIdleStareMinMs)
  hold : Fin (kIdleHoldMaxMs - kIdleHoldMinMs)

/-- The draw of `scheduleBlink`. -/
abbrev BlinkDraw := Fin (kBlinkGapMaxMs - kBlinkGapMinMs)

/-- The draws of `hopMagnitude`. -/
structure HopDraws where
  roll : Fin 1001
  sign : Fin 2

/-- The draws of the functions that re-arm both timers. -/
structure RearmDraws where
  saccade : SaccadeDraws
  blink : BlinkDraw

/-- The draws one `update` may make. -/
structure EyeDraws where
  suspend : RearmDraws
  panHop : HopDraws
  tiltHop : HopDraws
  saccade : SaccadeDraws
  blink : BlinkDraw

namespace EyeMotion

def clampf (v lo hi : ExtRat) : ExtRat :=
  if v.lt lo then lo else if hi.lt v then hi else v

/-! ## Timers -/

/-- Has the deadline passed, by the sign of the 32-bit difference? -/
def deadlinePassed (now deadlineMs : UInt32) : Bool := WrappingClock.reached now deadlineMs

def scheduleSaccade (now : UInt32) (d : SaccadeDraws) (m : EyeMotion) : EyeMotion :=
  if d.chance.val < kIdleStareChancePct then
    { m with sNextSaccadeMs := now + Arduino.random kIdleStareMinMs d.stare }
  else
    { m with sNextSaccadeMs := now + Arduino.random kIdleHoldMinMs d.hold }

def scheduleBlink (now : UInt32) (d : BlinkDraw) (m : EyeMotion) : EyeMotion :=
  { m with sNextBlinkMs := now + Arduino.random kBlinkGapMinMs d }

def rearm (now : UInt32) (d : RearmDraws) (m : EyeMotion) : EyeMotion :=
  scheduleBlink now d.blink (scheduleSaccade now d.saccade m)

/-! ## Saccades -/

def hopMagnitude (d : HopDraws) : ExtRat :=
  -- squaring the roll makes small hops common and long ones rare
  let r : ExtRat := .fin (d.roll.val / 1000)
  let sign : ExtRat := if d.sign.val = 0 then .fin (-1) else .fin 1
  sign * kIdleMaxHop * r * r

/-- One axis of `pickIdleTarget`: hop, pull toward the centre, clamp. -/
def idleTarget (center target : ExtRat) (d : HopDraws) : ExtRat :=
  let v := target + hopMagnitude d
  clampf (v + (center - v) * kIdleCenterPull) kIdleMinAngle kIdleMaxAngle

def pickIdleTarget (now : UInt32) (d : EyeDraws) (m : EyeMotion) : EyeMotion :=
  scheduleSaccade now d.saccade
    { m with
      sTargetPan := idleTarget kCenterPan m.sTargetPan d.panHop
      sTargetTilt := idleTarget kCenterTilt m.sTargetTilt d.tiltHop }

/-! ## The eye level -/

/-- The level speech asks for, or `none` to let blinking have the eyes. -/
def speechLevel (now : UInt32) (busyLow : Bool) (a : AudioPlayer) : Option UInt8 :=
  -- BUSY first: once the module sounds, the dip of the command is over
  if a.isPlaying busyLow then
    some kSpeechActiveLevel
  else if (a.sinceLastPlayCommand now).toNat < kSpeechDipWindowMs then
    some kSpeechDipLevel
  else
    none

/-- The level of a blink `elapsed` ms old while it reopens. -/
def blinkRamp (elapsed : ℕ) : UInt8 :=
  UInt8.ofNat (255 * (elapsed - kBlinkClosedMs) / kBlinkOpenMs)

/-- The second half of `updateEyeLevel`, when speech leaves the eyes to blinking. -/
def updateBlink (now : UInt32) (d : EyeDraws) (r : Rig) : Rig :=
  if r.motion.sBlinking then
    let elapsed := WrappingClock.age now r.motion.sBlinkStartMs
    -- closed at once, then a ramp back, then the resting level and the next gap
    if elapsed < kBlinkClosedMs then
      { r with led := r.led.setBlinkLevel 0 }
    else if elapsed < kBlinkClosedMs + kBlinkOpenMs then
      { r with led := r.led.setBlinkLevel (blinkRamp elapsed) }
    else
      { r with
        led := r.led.setBlinkLevel kEyeRestLevel
        motion := scheduleBlink now d.blink { r.motion with sBlinking := false } }
  else if deadlinePassed now r.motion.sNextBlinkMs then
    -- the lids close on the next tick, this one only starts the clock
    { r with motion := { r.motion with sBlinking := true, sBlinkStartMs := now } }
  else
    { r with led := r.led.setBlinkLevel kEyeRestLevel }

def updateEyeLevel (b : Board) (now : UInt32) (busyLow : Bool) (d : EyeDraws) (r : Rig) : Rig :=
  match if b.audio.isSome then speechLevel now busyLow r.audio else none with
  -- a blink in flight is abandoned, and the next one waits a full gap
  | some level =>
      { r with
        led := r.led.setBlinkLevel level
        motion := scheduleBlink now d.blink { r.motion with sBlinking := false } }
  | none => updateBlink now d r

/-- Relights the eyes if a blink was in flight, and re-arms both timers. -/
def suspendIdle (now : UInt32) (d : RearmDraws) (r : Rig) : Rig :=
  let r :=
    if r.motion.sBlinking then
      { r with
        motion := { r.motion with sBlinking := false }
        led := r.led.setBlinkLevel kEyeRestLevel }
    else
      r
  { r with motion := rearm now d r.motion }

/-! ## Public interface -/

/-- The statics before `begin`: the trims come from the board. -/
def initial (b : Board) : EyeMotion where
  sPanTrim := .fin b.panTrimDeg
  sTiltTrim := .fin b.tiltTrimDeg

def begin (now : UInt32) (d : RearmDraws) (m : EyeMotion) : EyeMotion :=
  rearm now d
    { m with
      sPan := kCenterPan
      sTilt := kCenterTilt
      sTargetPan := kCenterPan
      sTargetTilt := kCenterTilt
      sIdleResumeAtMs := now }

def setPanTrim (degrees : ExtRat) (m : EyeMotion) : EyeMotion :=
  { m with sPanTrim := clampf degrees (.fin (-45)) (.fin 45) }

def setTiltTrim (degrees : ExtRat) (m : EyeMotion) : EyeMotion :=
  { m with sTiltTrim := clampf degrees (.fin (-45)) (.fin 45) }

def setIdleEnabled (now : UInt32) (d : RearmDraws) (enabled : Bool) (r : Rig) : Rig :=
  if enabled = r.motion.sIdleEnabled then
    r
  else if enabled then
    -- both timers start over, so idle does not act the instant it wakes
    { r with motion := rearm now d { r.motion with sIdleEnabled := true } }
  else
    { r with
      motion := { r.motion with sIdleEnabled := false, sBlinking := false }
      led := r.led.setBlinkLevel kEyeRestLevel }

/-- Right stick beyond the threshold on either axis. -/
def stickActive (gp : GamepadState) : Bool :=
  gp.connected &&
    (decide (gp.axisRX > kStickActiveThreshold) || decide (gp.axisRX < -kStickActiveThreshold) ||
      decide (gp.axisRY > kStickActiveThreshold) || decide (gp.axisRY < -kStickActiveThreshold))

/-- Does idle have the eyes on a tick with this gamepad state? -/
def idle (now : UInt32) (gp : GamepadState) (m : EyeMotion) : Bool :=
  !gp.connected || deadlinePassed now m.sIdleResumeAtMs

/-- The first part of `update`: an active stick takes over. -/
def takeOver (now : UInt32) (gp : GamepadState) (d : EyeDraws) (r : Rig) : Rig :=
  if stickActive gp then
    suspendIdle now d.suspend
      { r with motion := { r.motion with sIdleResumeAtMs := now + UInt32.ofNat kIdleResumeMs } }
  else
    r

/-- The idle branch of `update` while idle is enabled. -/
def runIdle (b : Board) (now : UInt32) (busyLow : Bool) (d : EyeDraws) (r : Rig) : Rig :=
  updateEyeLevel b now busyLow d <|
    if deadlinePassed now r.motion.sNextSaccadeMs then
      { r with motion := pickIdleTarget now d r.motion }
    else
      r

/-- The driven branch of `update`: the right stick sets the target, Y inverted. -/
def driveTargets (gp : GamepadState) (m : EyeMotion) : EyeMotion :=
  { m with
    sTargetPan := .fin (Arduino.map gp.axisRX (-511) 512 0 180)
    sTargetTilt := .fin (Arduino.map gp.axisRY (-511) 512 180 0) }

/-- The last part of `update`: ease toward the target and write both servos. -/
def easeAndWrite (ease : ExtRat) (r : Rig) : Rig :=
  let m := { r.motion with
    sPan := r.motion.sPan + (r.motion.sTargetPan - r.motion.sPan) * ease
    sTilt := r.motion.sTilt + (r.motion.sTargetTilt - r.motion.sTilt) * ease }
  { r with
    motion := m
    servo := (r.servo.setAngle kPanChannel (clampf (m.sPan + m.sPanTrim) (.fin 0) (.fin 180))).setAngle
      kTiltChannel (clampf (m.sTilt + m.sTiltTrim) (.fin 0) (.fin 180)) }

def update (b : Board) (now : UInt32) (gp : GamepadState) (busyLow : Bool) (d : EyeDraws)
    (r : Rig) : Rig :=
  let r := takeOver now gp d r
  if idle now gp r.motion then
    easeAndWrite kIdleEase (if r.motion.sIdleEnabled then runIdle b now busyLow d r else r)
  else
    -- driven: the eye level is not looked at on this branch
    easeAndWrite kGamepadEase { r with motion := driveTargets gp r.motion }

end EyeMotion

end K2soHead
