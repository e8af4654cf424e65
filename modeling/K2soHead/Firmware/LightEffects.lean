import K2soHead.Firmware.GamepadInput
import K2soHead.Firmware.LedController
import K2soHead.Library.WrappingClock
import Mathlib.Data.Fin.VecNotation

/-!
# `light_effects.cpp`

The 13 lighting patterns and the accent colour they share.  A pattern is a loop over the
flattened pixel index that paints pixel `i` with some ink; `forEachPixel` is that loop,
and each `run…` gives the ink.
-/

namespace K2soHead

/-- `enum class Effect` -/
inductive Effect where
  | solid
  | solidRainbow
  | rainbowCycle
  | chasingRainbow
  | theaterChase
  | chase
  | confetti
  | twinkle
  | breathe
  | colorWipe
  | bounce
  | fire
  | strobe
  deriving DecidableEq, Repr

namespace Effect

def kCount : ℕ := 13

def toIndex : Effect → ℕ
  | solid => 0
  | solidRainbow => 1
  | rainbowCycle => 2
  | chasingRainbow => 3
  | theaterChase => 4
  | chase => 5
  | confetti => 6
  | twinkle => 7
  | breathe => 8
  | colorWipe => 9
  | bounce => 10
  | fire => 11
  | strobe => 12

/-- The `static_cast` back, only ever applied below `kCount`. -/
def ofIndex : ℕ → Effect
  | 0 => solid
  | 1 => solidRainbow
  | 2 => rainbowCycle
  | 3 => chasingRainbow
  | 4 => theaterChase
  | 5 => chase
  | 6 => confetti
  | 7 => twinkle
  | 8 => breathe
  | 9 => colorWipe
  | 10 => bounce
  | 11 => fire
  | _ => strobe

/-- `kEffectNames` -/
def name : Effect → String
  | solid => "Solid"
  | solidRainbow => "Solid Rainbow"
  | rainbowCycle => "Rainbow Cycle"
  | chasingRainbow => "Chasing Rainbow"
  | theaterChase => "Theater Chase"
  | chase => "Chase"
  | confetti => "Confetti"
  | twinkle => "Twinkle"
  | breathe => "Breathe"
  | colorWipe => "Color Wipe"
  | bounce => "Bounce"
  | fire => "Fire"
  | strobe => "Strobe"

end Effect

def kMaxPixels : ℕ := 64
abbrev kPaletteSize : ℕ := 7
def kDefaultPaletteIndex : Fin kPaletteSize := ⟨4, by decide⟩
def kStickCenterDeadzone : ℤ := 60

/-- Red, orange, yellow, green, cyan, blue, violet. -/
def kRainbowPalette : Fin kPaletteSize → Rgb :=
  ![⟨255, 0, 0⟩, ⟨255, 128, 0⟩, ⟨255, 255, 0⟩, ⟨0, 255, 0⟩, ⟨0, 255, 255⟩, ⟨0, 0, 255⟩,
    ⟨160, 0, 255⟩]

/-- The statics of `light_effects.cpp`.  Index arithmetic on the palette is modulo its
size, which is what `Fin` addition does.  Only the first `kMaxPixels` entries of the
scratch are ever reached. -/
structure LightEffects where
  sEffect : Effect := .solid
  sEffectStartMs : UInt32 := 0
  sPaletteIndex : Fin kPaletteSize := kDefaultPaletteIndex
  sAccent : Rgb := kRainbowPalette kDefaultPaletteIndex
  sDefaultAccent : Rgb := kRainbowPalette kDefaultPaletteIndex
  sScratch : ℕ → UInt8 := fun _ => 0

/-- The draws one `update` may make: `random(4)`, `random(6)`, `random(n)` and one
`random(96)` per pixel. -/
structure EffectDraws where
  confetti : Fin 4
  twinkle : Fin 6
  pixel : ℕ
  heat : ℕ → Fin 96

/-- Every draw at zero, for runs on which none of them matters. -/
def EffectDraws.zero : EffectDraws :=
  ⟨⟨0, by decide⟩, ⟨0, by decide⟩, 0, fun _ => ⟨0, by decide⟩⟩

/-- What one pixel is painted with. -/
inductive Ink where
  | rgb (c : Rgb)
  | hsv (hue : UInt16) (saturation value : UInt8)

namespace LightEffects

def pixelCount (led : LedController) : ℕ :=
  let n := led.totalPixelCount
  if n < kMaxPixels then n else kMaxPixels

def resetEffectState (now : UInt32) (le : LightEffects) : LightEffects :=
  { le with sEffectStartMs := now, sScratch := fun _ => 0 }

def elapsedMs (now : UInt32) (le : LightEffects) : ℕ :=
  WrappingClock.age now le.sEffectStartMs

/-! ## Accent colour -/

/-- HSV(hue, 255, 255) to RGB. -/
def hueToRGB (hueDegrees : UInt16) : Rgb :=
  let region := (hueDegrees / 60).toUInt8
  let remainder := UInt8.ofNat ((hueDegrees % 60).toNat * 255 / 60)
  let q := 255 - remainder
  let t := remainder
  match (region % 6).toNat with
  | 0 => ⟨255, t, 0⟩
  | 1 => ⟨q, 255, 0⟩
  | 2 => ⟨0, 255, t⟩
  | 3 => ⟨0, q, 255⟩
  | 4 => ⟨t, 0, 255⟩
  | _ => ⟨255, 0, q⟩

/-- Left stick inside the centre deadzone. -/
def stickCentered (gp : GamepadState) : Bool :=
  decide (gp.axisX > -kStickCenterDeadzone) && decide (gp.axisX < kStickCenterDeadzone)

def updateAccentFromGamepad (gp : GamepadState) (le : LightEffects) : LightEffects :=
  -- with no gamepad the accent is the web UI's to set
  if !gp.connected then
    le
  else if stickCentered gp then
    { le with sAccent := le.sDefaultAccent }
  else
    { le with sAccent := hueToRGB (UInt16.ofInt (Arduino.map gp.axisX (-511) 512 0 359)) }

/-- The accent with each component times `v / 255`. -/
def accentAt (v : UInt8) (le : LightEffects) : Rgb :=
  le.sAccent.map fun c => UInt8.ofNat (c.toNat * v.toNat / 255)

/-! ## Painting -/

def paint (i : ℕ) : Ink → LedController → LedController
  | .rgb c => LedController.setPixelGlobal i c
  | .hsv hue saturation value => LedController.setPixelGlobalHSV i hue saturation value

/-- `for (i = 0; i < n; i++)` painting pixel `i` with `ink i`. -/
def forEachPixel (n : ℕ) (ink : ℕ → Ink) (led : LedController) : LedController :=
  (List.range n).foldl (fun led i => paint i (ink i) led) led

/-- The accent where `lit`, black elsewhere. -/
def litInk (lit : ℕ → Bool) (le : LightEffects) (i : ℕ) : Ink :=
  .rgb (if lit i then le.sAccent else Rgb.black)

/-! ## The patterns -/

def runSolid (le : LightEffects) (led : LedController) : LedController :=
  forEachPixel (pixelCount led) (fun _ => .rgb le.sAccent) led

def runSolidRainbow (led : LedController) : LedController :=
  let n := pixelCount led
  forEachPixel n (fun i => .hsv (if n > 1 then UInt16.ofNat (360 * i / n) else 0) 255 200) led

def runRainbowCycle (now : UInt32) (le : LightEffects) (led : LedController) : LedController :=
  let n := pixelCount led
  let offset := elapsedMs now le / 20 % 360
  forEachPixel n
    (fun i => .hsv (UInt16.ofNat ((offset + if n > 1 then 360 * i / n else 0) % 360)) 255 200) led

def runChasingRainbow (now : UInt32) (le : LightEffects) (led : LedController) : LedController :=
  let n := pixelCount led
  if n = 0 then
    led
  else
    let pos := elapsedMs now le / 120 % n
    let hue := UInt16.ofNat (elapsedMs now le / 15 % 360)
    forEachPixel n (fun i => if i = pos then .hsv hue 255 220 else .rgb Rgb.black) led

def runTheaterChase (now : UInt32) (le : LightEffects) (led : LedController) : LedController :=
  let phase := elapsedMs now le / 150 % 3
  forEachPixel (pixelCount led) (litInk (fun i => i % 3 == phase) le) led

def runChase (now : UInt32) (le : LightEffects) (led : LedController) : LedController :=
  let n := pixelCount led
  if n = 0 then
    led
  else
    let pos := elapsedMs now le / 120 % n
    forEachPixel n (litInk (fun i => i == pos) le) led

/-- The loop Confetti and Twinkle share: fade each pixel's scratch level by `step`, paint
the accent at that level, then perhaps spark one pixel for the next frame.  A turn of the
loop touches only its own pixel, so the fading is written as one pass. -/
def runFading (step : UInt8) (spark : Bool) (pixel : ℕ) (le : LightEffects) (led : LedController) :
    LightEffects × LedController :=
  let n := pixelCount led
  let fade (v : UInt8) : UInt8 := if v > step then v - step else 0
  let faded := fun i => if i < n then fade (le.sScratch i) else le.sScratch i
  -- painted before the spark, which shows from the next frame on
  let led := forEachPixel n (fun i => .rgb (le.accentAt (faded i))) led
  if n > 0 ∧ spark then
    ({ le with sScratch := Function.update faded (pixel % n) 255 }, led)
  else
    ({ le with sScratch := faded }, led)

def runConfetti (d : EffectDraws) (le : LightEffects) (led : LedController) :
    LightEffects × LedController :=
  runFading 8 (d.confetti == 0) d.pixel le led

def runTwinkle (d : EffectDraws) (le : LightEffects) (led : LedController) :
    LightEffects × LedController :=
  runFading 15 (d.twinkle == 0) d.pixel le led

def runBreathe (b : Board) (now : UInt32) (le : LightEffects) (led : LedController) :
    LedController :=
  let v := b.breatheWave (elapsedMs now le % 3000)
  forEachPixel (pixelCount led) (fun _ => .rgb (le.accentAt v)) led

def runColorWipe (now : UInt32) (le : LightEffects) (led : LedController) : LedController :=
  let n := pixelCount led
  if n = 0 then
    led
  else
    let kMsPerPixel := 400
    let cycleMs := kMsPerPixel * n * 2
    -- first half of the cycle in, second half out
    let withinCycle := elapsedMs now le % cycleMs
    let wipingIn := decide (withinCycle < kMsPerPixel * n)
    let progress :=
      if wipingIn then withinCycle / kMsPerPixel else (withinCycle - kMsPerPixel * n) / kMsPerPixel
    forEachPixel n
      (litInk (fun i => if wipingIn then decide (i ≤ progress) else decide (i > progress)) le) led

def runBounce (now : UInt32) (le : LightEffects) (led : LedController) : LedController :=
  let n := pixelCount led
  if n = 0 then
    led
  else if n = 1 then
    led.setPixelGlobal 0 le.sAccent
  else
    -- there and back, without standing still at either end
    let span := 2 * (n - 1)
    let pos := elapsedMs now le / 120 % span
    let idx := if pos < n then pos else span - pos
    forEachPixel n (litInk (fun i => i == idx) le) led

def runFire (d : EffectDraws) (le : LightEffects) (led : LedController) : LedController :=
  let heat (i : ℕ) : ℕ := min (160 + (d.heat i).val) 255
  forEachPixel (pixelCount led) (fun i => .rgb (le.accentAt (UInt8.ofNat (heat i)))) led

def runStrobe (now : UInt32) (le : LightEffects) (led : LedController) : LedController :=
  let on := elapsedMs now le / 80 % 2 == 0
  forEachPixel (pixelCount led) (litInk (fun _ => on) le) led

/-! ## Public interface -/

def begin (now : UInt32) (le : LightEffects) : LightEffects := resetEffectState now le

/-- The `switch` of `update`. -/
def runEffect (b : Board) (now : UInt32) (d : EffectDraws) (le : LightEffects)
    (led : LedController) : LightEffects × LedController :=
  match le.sEffect with
  | .solid => (le, runSolid le led)
  | .solidRainbow => (le, runSolidRainbow led)
  | .rainbowCycle => (le, runRainbowCycle now le led)
  | .chasingRainbow => (le, runChasingRainbow now le led)
  | .theaterChase => (le, runTheaterChase now le led)
  | .chase => (le, runChase now le led)
  | .confetti => runConfetti d le led
  | .twinkle => runTwinkle d le led
  | .breathe => (le, runBreathe b now le led)
  | .colorWipe => (le, runColorWipe now le led)
  | .bounce => (le, runBounce now le led)
  | .fire => (le, runFire d le led)
  | .strobe => (le, runStrobe now le led)

def update (b : Board) (now : UInt32) (gp : GamepadState) (d : EffectDraws) (le : LightEffects)
    (led : LedController) : LightEffects × LedController :=
  runEffect b now d (updateAccentFromGamepad gp le) led

def next (now : UInt32) (le : LightEffects) : LightEffects :=
  resetEffectState now
    { le with sEffect := Effect.ofIndex ((le.sEffect.toIndex + 1) % Effect.kCount) }

def previous (now : UInt32) (le : LightEffects) : LightEffects :=
  resetEffectState now
    { le with
      sEffect := Effect.ofIndex ((le.sEffect.toIndex + Effect.kCount - 1) % Effect.kCount) }

def selectEffect (now : UInt32) (index : UInt8) (le : LightEffects) : LightEffects :=
  -- out of range is ignored, start time and scratch included
  if index.toNat ≥ Effect.kCount then
    le
  else
    resetEffectState now { le with sEffect := Effect.ofIndex index.toNat }

def setAccentColor (c : Rgb) (le : LightEffects) : LightEffects :=
  { le with sAccent := c }

def cycleDefaultAccentColor (le : LightEffects) : LightEffects :=
  let index := le.sPaletteIndex + 1
  { le with
    sPaletteIndex := index
    sDefaultAccent := kRainbowPalette index
    sAccent := kRainbowPalette index }

def setDefaultAccentToCurrent (le : LightEffects) : LightEffects :=
  { le with sDefaultAccent := le.sAccent }

def currentName (le : LightEffects) : String := le.sEffect.name

end LightEffects

end K2soHead
