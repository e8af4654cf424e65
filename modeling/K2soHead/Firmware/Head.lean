import K2soHead.Firmware.EyeMotion
import K2soHead.Firmware.LightEffects
import K2soHead.Firmware.Services

/-!
# The whole head, `web_ui.cpp` handlers and OTA callbacks

`Head` is every static of the firmware that the model follows, plus three logs: the
replies of the web server, and the calls `loop()` makes from its button branches.

A request carries its arguments as `hasArg` and `arg(..).toInt()` or `.toFloat()` give
them; the index page `/` only reads and is left out.
-/

namespace K2soHead

/-! ## State -/

/-- Calls `loop()` makes from its button branches.  `volumeReplay` is the replay on
release of D-pad Up or Down, `menuReplay` the one on Menu. -/
inductive LoopCall where
  | previous
  | next
  | toggleX
  | cycleDefaultAccentColor
  | setDefaultAccentToCurrent
  | setVolume (volume : UInt8)
  | volumeReplay
  | playNext
  | playPrevious
  | menuReplay
  deriving DecidableEq

/-- The body of a reply.  The trims are echoed as JSON; how a float prints is left out, and so
is what the server library writes by itself. -/
inductive Body where
  | text (s : String)
  | trims (pan tilt : ExtRat)
  | library
  deriving DecidableEq

/-- What the web server sends back. -/
structure Response where
  code : ℕ
  contentType : String
  body : Body
  deriving DecidableEq

/-- The statics of `sketch.cpp`. -/
structure Sketch where
  sL1WasPressed : Bool := false
  sR1WasPressed : Bool := false
  sXWasPressed : Bool := false
  sYWasPressed : Bool := false
  sDpadLeftWasPressed : Bool := false
  sDpadRightWasPressed : Bool := false
  sStartWasPressed : Bool := false
  sVolumeAdjusted : Bool := false
  sAdminPressedAtMs : UInt32 := 0
  sAdminHoldFired : Bool := false
  sLastYPressMs : UInt32 := 0
  sLastVolumeChangeMs : UInt32 := 0
  sBrightnessBeforeOff : UInt8 := 200
  deriving DecidableEq

/-- The static latch of the OTA progress callback, and the percentages it printed. -/
structure OtaProgress where
  lastPct : UInt32 := 0
  printed : List UInt32 := []
  deriving DecidableEq

structure Head extends Rig where
  gamepad : GamepadInput := {}
  lights : LightEffects := {}
  services : Services := {}
  ota : OtaProgress := {}
  sketch : Sketch := {}
  replies : List Response := []
  calls : List LoopCall := []

def Head.call (c : LoopCall) (h : Head) : Head := { h with calls := h.calls ++ [c] }

/-! ## HTTP requests -/

/-- A request to one of the `/api` routes. -/
inductive HttpRequest where
  | effect (index : Option ℤ)
  | color (hex : List UInt8)
  | brightness (value : Option ℤ)
  | status
  | play (track : Option ℤ)
  | volume (value : Option ℤ)
  | eyeTrim (pan tilt : Option ExtRat)

namespace WebUI

def ok : Response := ⟨200, "text/plain", .text "OK"⟩

def bad (text : String) : Response := ⟨400, "text/plain", .text text⟩

def hexNibble (c : UInt8) : UInt8 :=
  if c ≥ 0x30 ∧ c ≤ 0x39 then c - 0x30
  else if c ≥ 0x61 ∧ c ≤ 0x66 then c - 0x61 + 10
  else if c ≥ 0x41 ∧ c ≤ 0x46 then c - 0x41 + 10
  else 0

def handleSelectEffect (now : UInt32) (index : Option ℤ) (h : Head) : Head × Response :=
  match index with
  | none => (h, bad "missing index")
  | some index =>
      if index < 0 ∨ index ≥ Effect.kCount then
        (h, bad "bad index")
      else
        ({ h with lights := h.lights.selectEffect now (UInt8.ofInt index) }, ok)

def handleSetColor (hex : List UInt8) (h : Head) : Head × Response :=
  match hex with
  | [r₁, r₀, g₁, g₀, b₁, b₀] =>
      let byte (hi lo : UInt8) : UInt8 := hexNibble hi <<< 4 ||| hexNibble lo
      ({ h with lights := h.lights.setAccentColor ⟨byte r₁ r₀, byte g₁ g₀, byte b₁ b₀⟩ }, ok)
  | _ => (h, bad "expected 6 hex digits, e.g. ff8800")

def handleSetBrightness (value : Option ℤ) (h : Head) : Head × Response :=
  match value with
  | none => (h, bad "missing value")
  | some value =>
      let value := if value < 0 then 0 else value
      let value := if value > 255 then 255 else value
      ({ h with led := h.led.setBrightness (UInt8.ofInt value) }, ok)

def handlePlay (b : Board) (now : UInt32) (track : Option ℤ) (h : Head) : Head × Response :=
  match track with
  | none => (h, bad "missing track")
  | some track =>
      -- with no `AUDIO_TRACK_COUNT` the count is 0 and every track is refused
      if track < 1 ∨ track > (AudioPlayer.trackCount b).toNat then
        (h, bad "track out of range")
      else
        ({ h with audio := h.audio.play now (UInt16.ofInt track) }, ok)

def handleSetVolume (now : UInt32) (value : Option ℤ) (h : Head) : Head × Response :=
  match value with
  | none => (h, bad "missing value")
  | some value =>
      let value := if value < 0 then 0 else value
      let value := if value > 30 then 30 else value
      ({ h with audio := h.audio.setVolume now (UInt8.ofInt value) }, ok)

def handleEyeTrim (pan tilt : Option ExtRat) (h : Head) : Head × Response :=
  -- either argument may be missing, and both trims are always echoed
  let m := match pan with
    | none => h.motion
    | some degrees => h.motion.setPanTrim degrees
  let m := match tilt with
    | none => m
    | some degrees => m.setTiltTrim degrees
  ({ h with motion := m }, ⟨200, "application/json", .trims m.sPanTrim m.sTiltTrim⟩)

def handleStatus (b : Board) (h : Head) : Head × Response :=
  let audio :=
    if b.audio.isSome then
      s!",\"volume\":{h.audio.volume},\"track\":{h.audio.currentTrack},\"tracks\":{AudioPlayer.trackCount b}"
    else
      ",\"volume\":0,\"track\":0,\"tracks\":0"
  (h, ⟨200, "application/json",
    .text ("\x7b\"effect\":\"" ++ h.lights.currentName ++ "\",\"brightness\":" ++
      toString h.led.brightness ++ audio ++ "\x7d")⟩)

/-- The library's own answer on a route the board does not register; only its code is known. -/
def notFound : Response := ⟨404, "", .library⟩

def dispatch (b : Board) (now : UInt32) (h : Head) : HttpRequest → Head × Response
  | .effect index => handleSelectEffect now index h
  | .color hex => handleSetColor hex h
  | .brightness value => handleSetBrightness value h
  | .status => handleStatus b h
  | .play track => if b.audio.isSome then handlePlay b now track h else (h, notFound)
  | .volume value => if b.audio.isSome then handleSetVolume now value h else (h, notFound)
  | .eyeTrim pan tilt => if b.servos then handleEyeTrim pan tilt h else (h, notFound)

/-- One pending request handled and answered. -/
def serve (b : Board) (now : UInt32) (h : Head) (request : HttpRequest) : Head :=
  let (h, response) := dispatch b now h request
  { h with replies := h.replies ++ [response] }

/-- `handleClient` with the requests pending at this call. -/
def handleClient (b : Board) (now : UInt32) (requests : List HttpRequest) (h : Head) : Head :=
  if h.services.webRunning then requests.foldl (serve b now) h else h

end WebUI

/-! ## OTA callbacks -/

/-- What `ArduinoOTA.handle()` calls back during a transfer. -/
inductive OtaEvent where
  | start
  | progress (done total : UInt32)
  | finish
  | error (code : ℕ)

namespace OtaService

def onStart (led : LedController) : LedController :=
  ((led.setBrightness 0).clearAll).showAll

def onProgress (done total : UInt32) (o : OtaProgress) : OtaProgress :=
  -- in 32-bit arithmetic, so the product wraps from 42 MB on
  let pct := if total ≠ 0 then done * 100 / total else 0
  if pct ≥ o.lastPct + 10 ∨ pct = 100 then
    { lastPct := pct, printed := o.printed ++ [pct] }
  else
    o

/-- `onEnd` and `onError` only log. -/
def event (h : Head) : OtaEvent → Head
  | .start => { h with led := onStart h.led }
  | .progress done total => { h with ota := onProgress done total h.ota }
  | .finish => h
  | .error _ => h

def handle (events : List OtaEvent) (h : Head) : Head :=
  if h.services.otaRunning then events.foldl event h else h

end OtaService

end K2soHead
