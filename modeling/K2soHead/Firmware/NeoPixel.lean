import Mathlib.Data.UInt
import Mathlib.Data.List.Basic

/-!
# `Adafruit_NeoPixel`, as far as the head uses it

One RGB strip.  The library keeps the pixels pre-multiplied: `setPixelColor` stores the
component scaled by the current brightness, and `setBrightness` rescales what is stored,
losing low bits.  The packed 32-bit colours are kept as their three bytes, and the byte
order on the wire (`NEO_GRB`) plays no part.

Left out of `updateLength`: a failing `malloc`, and the wrap of the 16-bit `numBytes` from 21846
pixels on.
-/

namespace K2soHead

/-- A colour, or the bytes stored for one pixel. -/
structure Rgb where
  r : UInt8
  g : UInt8
  b : UInt8
  deriving DecidableEq, Repr

def Rgb.black : Rgb := ⟨0, 0, 0⟩

def Rgb.map (f : UInt8 → UInt8) (c : Rgb) : Rgb := ⟨f c.r, f c.g, f c.b⟩

/-- The fields of `Adafruit_NeoPixel` that drawing reads and writes. -/
structure NeoPixel where
  pixels : List Rgb
  /-- stored as the value passed plus one, so 0 means full brightness -/
  brightness : UInt8 := 0
  deriving DecidableEq

namespace NeoPixel

/-- The constructor: `n` cleared pixels, brightness never set. -/
def new (n : UInt16) : NeoPixel := { pixels := List.replicate n.toNat Rgb.black }

def numPixels (p : NeoPixel) : ℕ := p.pixels.length

def getBrightness (p : NeoPixel) : UInt8 := p.brightness - 1

/-! ## Writing pixels -/

/-- `(c * brightness) >> 8`, skipped at full brightness. -/
def scale (brightness c : UInt8) : UInt8 :=
  if brightness = 0 then c else UInt8.ofNat (c.toNat * brightness.toNat / 256)

def setPixelColor (n : ℕ) (c : Rgb) (p : NeoPixel) : NeoPixel :=
  if n < p.numPixels then
    { p with pixels := p.pixels.set n (c.map (scale p.brightness)) }
  else
    p

def clear (p : NeoPixel) : NeoPixel :=
  { p with pixels := p.pixels.map fun _ => Rgb.black }

/-! ## Brightness -/

/-- Factor, in 256ths, by which `setBrightness` rescales the stored bytes. -/
def rescaleFactor (b newBrightness oldBrightness : UInt8) : ℕ :=
  if oldBrightness = 0 then
    -- everything stored is 0 already, and there is nothing to divide by
    0
  else if b = 255 then
    65535 / oldBrightness.toNat
  else
    (newBrightness.toNat * 256 - 1) / oldBrightness.toNat

def setBrightness (b : UInt8) (p : NeoPixel) : NeoPixel :=
  -- the sum wraps, so level 255 is stored as 0
  let newBrightness := b + 1
  if newBrightness ≠ p.brightness then
    let factor := rescaleFactor b newBrightness (p.brightness - 1)
    { pixels := p.pixels.map (Rgb.map fun c => UInt8.ofNat (c.toNat * factor / 256))
      brightness := newBrightness }
  else
    p

/-! ## Colours from hue, saturation and value -/

/-- Hue 0..1530 of the hexcone to full-saturation RGB. -/
def hexcone (hue : ℕ) : ℕ × ℕ × ℕ :=
  if hue < 510 then
    if hue < 255 then (255, hue, 0) else (510 - hue, 255, 0)
  else if hue < 1020 then
    if hue < 765 then (0, 255, hue - 510) else (0, 1020 - hue, 255)
  else if hue < 1530 then
    if hue < 1275 then (hue - 1020, 0, 255) else (255, 0, 1530 - hue)
  else
    (255, 0, 0)

/-- One component after saturation and value. -/
def satVal (sat val : UInt8) (c : ℕ) : UInt8 :=
  UInt8.ofNat ((c * (1 + sat.toNat) / 256 + (255 - sat.toNat)) * (1 + val.toNat) / 256)

def colorHSV (hue : UInt16) (sat val : UInt8) : Rgb :=
  let (r, g, b) := hexcone ((hue.toNat * 1530 + 32768) / 65536)
  ⟨satVal sat val r, satVal sat val g, satVal sat val b⟩

/-! ## What each operation keeps -/

@[simp] theorem numPixels_setPixelColor (n : ℕ) (c : Rgb) (p : NeoPixel) :
    (p.setPixelColor n c).numPixels = p.numPixels := by
  unfold setPixelColor numPixels
  split <;> simp

@[simp] theorem brightness_setPixelColor (n : ℕ) (c : Rgb) (p : NeoPixel) :
    (p.setPixelColor n c).brightness = p.brightness := by
  unfold setPixelColor
  split <;> rfl

@[simp] theorem numPixels_clear (p : NeoPixel) : p.clear.numPixels = p.numPixels := by
  simp [clear, numPixels]

@[simp] theorem brightness_clear (p : NeoPixel) : p.clear.brightness = p.brightness := rfl

@[simp] theorem numPixels_setBrightness (b : UInt8) (p : NeoPixel) :
    (p.setBrightness b).numPixels = p.numPixels := by
  unfold setBrightness numPixels
  dsimp only
  split <;> simp

@[simp] theorem brightness_setBrightness (b : UInt8) (p : NeoPixel) :
    (p.setBrightness b).brightness = b + 1 := by
  unfold setBrightness
  dsimp only
  split
  · rfl
  · rename_i h
    exact (not_not.mp h).symm

@[simp] theorem getBrightness_setBrightness (b : UInt8) (p : NeoPixel) :
    (p.setBrightness b).getBrightness = b := by
  rw [getBrightness, brightness_setBrightness]
  grind

theorem getElem?_setPixelColor (n : ℕ) (c : Rgb) (p : NeoPixel) (j : ℕ) :
    (p.setPixelColor n c).pixels[j]? =
      if n = j ∧ j < p.numPixels then some (c.map (scale p.brightness)) else p.pixels[j]? := by
  unfold setPixelColor numPixels
  split
  · rename_i hn
    by_cases hj : n = j
    · subst hj
      simp [hn]
    · simp [hj]
  · rename_i hn
    rw [if_neg]
    rintro ⟨rfl, hj⟩
    exact hn hj

end NeoPixel

end K2soHead
