import K2soHead.Firmware.NeoPixel
import Mathlib.Logic.Function.Basic

/-!
# `led_controller.cpp`

Up to `kMaxStrips` strips and three brightness multipliers: the global one, one per
strip, and the blink level.  Their product is what each strip's own library object is
told to apply.

The array of strip pointers is the list of the strips created so far.  A test
`i < sStripCount && sStrips[i] != nullptr` is a successful look-up in it, also inside
`begin`, where only the strips below the loop index exist.
-/

namespace K2soHead

def kMaxStrips : ℕ := 4

/-- The statics of `led_controller.cpp`, and what `show` has transmitted, oldest first:
the strip's index with the pixels pushed to it. -/
structure LedController where
  sStrips : List NeoPixel := []
  sGlobalBrightness : UInt8 := 200
  sStripDim : ℕ → UInt8 := fun _ => 0
  sBlinkLevel : UInt8 := 255
  pushed : List (ℕ × List Rgb) := []

namespace LedController

/-! ## Applied brightness -/

/-- The product of the three multipliers, in 32-bit arithmetic. -/
def effective (l : LedController) (i : ℕ) : UInt32 :=
  l.sGlobalBrightness.toUInt32 * (l.sStripDim i).toUInt32 * l.sBlinkLevel.toUInt32 / (255 * 255)

def modifyStrip (i : ℕ) (f : NeoPixel → NeoPixel) (l : LedController) : LedController :=
  { l with sStrips := l.sStrips.modify i f }

def applyStripBrightness (i : ℕ) (l : LedController) : LedController :=
  l.modifyStrip i (NeoPixel.setBrightness (l.effective i).toUInt8)

/-- `for (i = 0; i < sStripCount; i++) body(i)` -/
def forEachStrip (body : ℕ → LedController → LedController) (l : LedController) : LedController :=
  (List.range l.sStrips.length).foldl (fun l i => body i l) l

def setBrightness (brightness : UInt8) (l : LedController) : LedController :=
  forEachStrip applyStripBrightness { l with sGlobalBrightness := brightness }

def brightness (l : LedController) : UInt8 := l.sGlobalBrightness

def setStripDim (stripIndex : ℕ) (dim : UInt8) (l : LedController) : LedController :=
  if stripIndex < kMaxStrips then
    applyStripBrightness stripIndex
      { l with sStripDim := Function.update l.sStripDim stripIndex dim }
  else
    l

def setBlinkLevel (level : UInt8) (l : LedController) : LedController :=
  -- called every tick, and rescaling loses bits, so an unchanged level is left alone
  if level = l.sBlinkLevel then
    l
  else
    forEachStrip applyStripBrightness { l with sBlinkLevel := level }

/-! ## Start-up -/

/-- The loop of `begin`: dim to 255, create the strip, apply its brightness. -/
def beginStrips : List UInt32 → LedController → LedController
  | [], l => l
  | n :: counts, l =>
      -- the new strip's index is the number of strips before it
      let i := l.sStrips.length
      beginStrips counts <| applyStripBrightness i
        { l with
          sStripDim := Function.update l.sStripDim i 255
          sStrips := l.sStrips ++ [NeoPixel.new n.toUInt16] }

/-- `begin` with one entry of `ledCounts` per strip; more than `kMaxStrips` are dropped. -/
def begin (ledCounts : List UInt32) (l : LedController) : LedController :=
  -- strips of an earlier `begin` are out of reach afterwards
  beginStrips (ledCounts.take kMaxStrips) { l with sStrips := [] }

/-! ## Painting one strip -/

def setPixel (stripIndex pixelIndex : ℕ) (c : Rgb) (l : LedController) : LedController :=
  l.modifyStrip stripIndex (NeoPixel.setPixelColor pixelIndex c)

/-- `for (i = 0; i < numPixels(); i++) setPixelColor(i, c)` -/
def paintAll (c : Rgb) (p : NeoPixel) : NeoPixel :=
  (List.range p.numPixels).foldl (fun p i => p.setPixelColor i c) p

def fill (stripIndex : ℕ) (c : Rgb) (l : LedController) : LedController :=
  l.modifyStrip stripIndex (paintAll c)

/-- Adafruit's 16-bit hue for degrees 0..359. -/
def degreesToAdafruitHue (hueDegrees : UInt16) : UInt16 :=
  (hueDegrees.toUInt32 * 65536 / 360).toUInt16

def hsv (hue : UInt16) (saturation value : UInt8) : Rgb :=
  NeoPixel.colorHSV (degreesToAdafruitHue hue) saturation value

def fillHSV (stripIndex : ℕ) (hue : UInt16) (saturation value : UInt8) (l : LedController) :
    LedController :=
  l.modifyStrip stripIndex (paintAll (hsv hue saturation value))

def clear (stripIndex : ℕ) (l : LedController) : LedController :=
  l.modifyStrip stripIndex NeoPixel.clear

def showStrip (stripIndex : ℕ) (l : LedController) : LedController :=
  match l.sStrips[stripIndex]? with
  | some p => { l with pushed := l.pushed ++ [(stripIndex, p.pixels)] }
  | none => l

/-! ## Painting every strip -/

def fillAllHSV (hue : UInt16) (saturation value : UInt8) : LedController → LedController :=
  forEachStrip fun i => fillHSV i hue saturation value

def clearAll : LedController → LedController := forEachStrip clear

def showAll : LedController → LedController := forEachStrip showStrip

/-! ## The flattened index -/

def totalPixelCount (l : LedController) : ℕ :=
  (l.sStrips.map NeoPixel.numPixels).sum

/-- The loop of `resolveGlobalIndex` from strip `i` on. -/
def resolveFrom (i : ℕ) : List NeoPixel → ℕ → Option (ℕ × ℕ)
  | [], _ => none
  | p :: strips, remaining =>
      if remaining < p.numPixels then
        some (i, remaining)
      else
        resolveFrom (i + 1) strips (remaining - p.numPixels)

def resolveGlobalIndex (l : LedController) (globalIndex : ℕ) : Option (ℕ × ℕ) :=
  resolveFrom 0 l.sStrips globalIndex

def setPixelGlobal (globalIndex : ℕ) (c : Rgb) (l : LedController) : LedController :=
  match l.resolveGlobalIndex globalIndex with
  | some (stripIndex, pixelIndex) => l.setPixel stripIndex pixelIndex c
  | none => l

def setPixelGlobalHSV (globalIndex : ℕ) (hue : UInt16) (saturation value : UInt8)
    (l : LedController) : LedController :=
  match l.resolveGlobalIndex globalIndex with
  | some (stripIndex, pixelIndex) =>
      l.modifyStrip stripIndex (NeoPixel.setPixelColor pixelIndex (hsv hue saturation value))
  | none => l

end LedController

end K2soHead
