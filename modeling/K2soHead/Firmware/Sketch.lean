import K2soHead.Firmware.Head

/-!
# `sketch.cpp`: `setup()` and `loop()`

`loop` is cut into one function per block of the source, in the order of the source.
Everything a tick takes from outside is in `LoopInput`: what Bluepad32 and the radio
stacks deliver, the pins, the clock at each block that reads it, and the random draws.
-/

namespace K2soHead

def kServoZeroingMode : Bool := false
def kBrightnessStepPerTick : ℤ := 6
def kDoubleClickWindowMs : UInt32 := 400
def kVolumeStep : ℤ := 1
def kVolumeRepeatMs : UInt32 := 120
def kAdminHoldMs : UInt32 := 1000

/-- `millis()` at real time `t`. -/
def millis (t : ℕ) : UInt32 := WrappingClock.reading t

/-- Real time in ms at the blocks of one tick that read the clock. -/
structure TickClock where
  requests : ℕ
  controls : ℕ
  admin : ℕ
  eyes : ℕ
  effects : ℕ

/-- What one tick of `loop()` takes from outside. -/
structure LoopInput where
  pads : Bp32Update
  requests : List HttpRequest
  otaEvents : List OtaEvent
  clock : TickClock
  adminLow : Bool
  softAP : Bool
  busyLow : Bool
  idleDraws : RearmDraws
  eyeDraws : EyeDraws
  effectDraws : EffectDraws

namespace Sketch

/-! ## The admin acknowledgement -/

/-- One of the two flashes. -/
def flash (hue : UInt16) (led : LedController) : LedController :=
  (((led.fillAllHSV hue 255 255).showAll).clearAll).showAll

def flashAdminAck (apNowRunning : Bool) (led : LedController) : LedController :=
  let savedBrightness := led.brightness
  let hue := if apNowRunning then 120 else 0
  let led := (led.setBlinkLevel 255).setBrightness 160
  (flash hue (flash hue led)).setBrightness savedBrightness

/-! ## The connected branch -/

/-- LT and RT dim their own side. -/
def dimStrips (gp : GamepadState) (h : Head) : Head :=
  -- pulled all the way is dark, and nothing clamps a trigger out of range
  let leftDim := UInt8.ofInt (Arduino.map gp.brake 0 1023 255 0)
  let rightDim := UInt8.ofInt (Arduino.map gp.throttle 0 1023 255 0)
  { h with led := (h.led.setStripDim 0 leftDim).setStripDim 1 rightDim }

/-- L1 and R1 step the patterns on a press. -/
def stepPatterns (now : UInt32) (gp : GamepadState) (h : Head) : Head :=
  let h :=
    if gp.l1 && !h.sketch.sL1WasPressed then
      { h.call .previous with lights := h.lights.previous now }
    else h
  let h :=
    if gp.r1 && !h.sketch.sR1WasPressed then
      { h.call .next with lights := h.lights.next now }
    else h
  { h with sketch := { h.sketch with sL1WasPressed := gp.l1, sR1WasPressed := gp.r1 } }

/-- The body of the X branch. -/
def switchLights (b : Board) (now : UInt32) (d : RearmDraws) (h : Head) : Head :=
  -- decided by the brightness, so lights ramped down to 0 by A count as off
  let turningOn := h.led.brightness == 0
  let h :=
    if turningOn then
      { h with led := h.led.setBrightness h.sketch.sBrightnessBeforeOff }
    else
      { h with
        sketch := { h.sketch with sBrightnessBeforeOff := h.led.brightness }
        led := h.led.setBrightness 0 }
  if b.servos then
    { h with toRig := EyeMotion.setIdleEnabled now d turningOn h.toRig }
  else
    h

/-- X switches the lights off and on again. -/
def toggleX (b : Board) (now : UInt32) (d : RearmDraws) (gp : GamepadState) (h : Head) : Head :=
  let h :=
    if gp.x && !h.sketch.sXWasPressed then switchLights b now d (h.call .toggleX) else h
  { h with sketch := { h.sketch with sXWasPressed := gp.x } }

/-- Y steps the palette; a second press soon enough pins the current colour instead. -/
def clickY (now : UInt32) (gp : GamepadState) (h : Head) : Head :=
  let h :=
    if gp.y && !h.sketch.sYWasPressed then
      if h.sketch.sLastYPressMs != 0 &&
          decide (now - h.sketch.sLastYPressMs ≤ kDoubleClickWindowMs) then
        { h.call .setDefaultAccentToCurrent with
          lights := h.lights.setDefaultAccentToCurrent
          -- consumed, so a third click starts over
          sketch := { h.sketch with sLastYPressMs := 0 } }
      else
        { h.call .cycleDefaultAccentColor with
          lights := h.lights.cycleDefaultAccentColor
          sketch := { h.sketch with sLastYPressMs := now } }
    else h
  { h with sketch := { h.sketch with sYWasPressed := gp.y } }

/-- D-pad Up and Down ramp the volume while held and replay once on release. -/
def rampVolume (b : Board) (now : UInt32) (gp : GamepadState) (h : Head) : Head :=
  if gp.dpadUp || gp.dpadDown then
    if now - h.sketch.sLastVolumeChangeMs ≥ kVolumeRepeatMs then
      let next := (h.audio.volume.toNat : ℤ) + if gp.dpadUp then kVolumeStep else -kVolumeStep
      let next := if next < 0 then 0 else if next > 30 then 30 else next
      { h.call (.setVolume (UInt8.ofInt next)) with
        audio := h.audio.setVolume now (UInt8.ofInt next)
        sketch := { h.sketch with sLastVolumeChangeMs := now, sVolumeAdjusted := true } }
    else h
  else if h.sketch.sVolumeAdjusted then
    -- let go: play the clip once at the new volume
    { h.call .volumeReplay with
      audio := h.audio.replay b now
      sketch := { h.sketch with sVolumeAdjusted := false } }
  else h

/-- D-pad Left and Right step through the clips on a press. -/
def stepTracks (b : Board) (now : UInt32) (gp : GamepadState) (h : Head) : Head :=
  let h :=
    if gp.dpadRight && !h.sketch.sDpadRightWasPressed then
      { h.call .playNext with audio := h.audio.playNext b now }
    else h
  let h :=
    if gp.dpadLeft && !h.sketch.sDpadLeftWasPressed then
      { h.call .playPrevious with audio := h.audio.playPrevious b now }
    else h
  { h with
    sketch := { h.sketch with
      sDpadRightWasPressed := gp.dpadRight
      sDpadLeftWasPressed := gp.dpadLeft } }

/-- Menu replays the selected clip on a press. -/
def replayMenu (b : Board) (now : UInt32) (gp : GamepadState) (h : Head) : Head :=
  let h :=
    if gp.start && !h.sketch.sStartWasPressed then
      { h.call .menuReplay with audio := h.audio.replay b now }
    else h
  { h with sketch := { h.sketch with sStartWasPressed := gp.start } }

/-- A and B ramp the brightness while held. -/
def rampBrightness (gp : GamepadState) (h : Head) : Head :=
  let current : ℤ := h.led.brightness.toNat
  -- A wins when both are held
  if gp.a then
    let next := current - kBrightnessStepPerTick
    { h with led := h.led.setBrightness (UInt8.ofInt (if next < 0 then 0 else next)) }
  else if gp.b then
    let next := current + kBrightnessStepPerTick
    { h with led := h.led.setBrightness (UInt8.ofInt (if next > 255 then 255 else next)) }
  else h

/-- The `#ifdef AUDIO_TX_GPIO` part of the connected branch. -/
def audioControls (b : Board) (now : UInt32) (gp : GamepadState) (h : Head) : Head :=
  if b.audio.isSome then
    replayMenu b now gp (stepTracks b now gp (rampVolume b now gp h))
  else h

def connectedControls (b : Board) (now : UInt32) (d : RearmDraws) (gp : GamepadState) (h : Head) :
    Head :=
  let h := dimStrips gp h
  let h := stepPatterns now gp h
  let h := toggleX b now d gp h
  let h := clickY now gp h
  let h := audioControls b now gp h
  rampBrightness gp h

/-! ## The disconnected branch -/

def releaseControls (h : Head) : Head :=
  -- every edge flag and the double click, but not `sVolumeAdjusted`
  { h with
    sketch := { h.sketch with
      sL1WasPressed := false
      sR1WasPressed := false
      sXWasPressed := false
      sYWasPressed := false
      sDpadLeftWasPressed := false
      sDpadRightWasPressed := false
      sStartWasPressed := false
      sLastYPressMs := 0 }
    led := (h.led.setStripDim 0 255).setStripDim 1 255 }

def controls (b : Board) (now : UInt32) (d : RearmDraws) (h : Head) : Head :=
  let gp := h.gamepad.sState
  if gp.connected then connectedControls b now d gp h else releaseControls h

/-! ## The admin button -/

/-- The toggle a full hold makes. -/
def toggleAP (softAP : Bool) (s : Services) : Services :=
  if s.webRunning then
    -- the update service first, while its access point is still up
    GamepadInput.setDiscoverable true (WebUI.stop (OtaService.stop s))
  else
    let s := WebUI.start softAP (GamepadInput.setDiscoverable false s)
    if s.webRunning then OtaService.begin s else GamepadInput.setDiscoverable true s

def adminButton (now : UInt32) (low softAP : Bool) (h : Head) : Head :=
  if low then
    -- 0 doubles as "not pressed"
    if h.sketch.sAdminPressedAtMs = 0 then
      { h with sketch := { h.sketch with sAdminPressedAtMs := now } }
    else if !h.sketch.sAdminHoldFired &&
        decide (now - h.sketch.sAdminPressedAtMs ≥ kAdminHoldMs) then
      let services := toggleAP softAP h.services
      { h with
        services := services
        sketch := { h.sketch with sAdminHoldFired := true }
        led := flashAdminAck services.webRunning h.led }
    else h
  else
    { h with sketch := { h.sketch with sAdminPressedAtMs := 0, sAdminHoldFired := false } }

/-! ## `setup()` and `loop()` -/

/-- `setup()` at real time `t`, from the statics as the image initialises them. -/
def setup (b : Board) (t : ℕ) (d : RearmDraws) : Head :=
  let now := millis t
  let led := (({} : LedController).begin b.ledCounts).clearAll.showAll
  let audio : AudioPlayer := match b.audio with
    | some pins => (({} : AudioPlayer).begin now pins.busyGpio).setVolume now 20
    | none => {}
  let servo : ServoController :=
    if b.servos then ({} : ServoController).setPulseRange 1 972 2056 else {}
  let motion := if b.servos && !kServoZeroingMode then EyeMotion.begin now d (EyeMotion.initial b)
    else EyeMotion.initial b
  { motion := motion
    led := led
    servo := servo
    audio := audio
    lights := LightEffects.begin now {}
    services := { radio := [.enableNewBluetoothConnections true, .wifiMode false] } }

/-- The part of a tick before the controls are looked at. -/
def poll (b : Board) (i : LoopInput) (h : Head) : Head :=
  -- the flag `update` returns is not looked at
  let h := { h with gamepad := (GamepadInput.update i.pads h.gamepad).1 }
  let h := WebUI.handleClient b (millis i.clock.requests) i.requests h
  OtaService.handle i.otaEvents h

/-- The controls, the admin button and the eyes. -/
def act (b : Board) (i : LoopInput) (h : Head) : Head :=
  let h := controls b (millis i.clock.controls) i.idleDraws h
  let h :=
    if b.adminButton then adminButton (millis i.clock.admin) i.adminLow i.softAP h else h
  if b.servos && !kServoZeroingMode then
    { h with
      toRig :=
        EyeMotion.update b (millis i.clock.eyes) h.gamepad.sState i.busyLow i.eyeDraws h.toRig }
  else h

/-- `LightEffects::update` and `LedController::showAll`. -/
def render (b : Board) (i : LoopInput) (h : Head) : Head :=
  let (lights, led) :=
    LightEffects.update b (millis i.clock.effects) h.gamepad.sState i.effectDraws h.lights h.led
  { h with lights := lights, led := led.showAll }

def loop (b : Board) (h : Head) (i : LoopInput) : Head :=
  render b i (act b i (poll b i h))

end Sketch

end K2soHead
