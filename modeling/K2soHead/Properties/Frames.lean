import K2soHead.Properties.BlindTick
import K2soHead.Properties.LoopFrames
import K2soHead.Properties.PixelIndex

/-!
# Frames carry no history

A pattern repaints every pixel before it is shown, so the rendering is blind to the pixel
buffers as well, and with it the whole tick.  Selecting a pattern overwrites what the other
statics of `light_effects.cpp` remember of the pattern before.
-/

namespace K2soHead

open Erasure Runs

theorem painted_clear (color : ℕ → Rgb) (strips : List NeoPixel) :
    painted color (strips.map NeoPixel.clear) = painted color strips := by
  induction strips generalizing color with
  | nil => rfl
  | cons p strips ih =>
    rw [List.map_cons, painted, painted, ih, NeoPixel.numPixels_clear, NeoPixel.brightness_clear]

theorem map_numPixels_painted (color : ℕ → Rgb) (strips : List NeoPixel) :
    (painted color strips).map NeoPixel.numPixels = strips.map NeoPixel.numPixels := by
  induction strips generalizing color with
  | nil => rfl
  | cons p strips ih => rw [painted, List.map_cons, List.map_cons, ih, NeoPixel.numPixels,
      List.length_map, List.length_range]

namespace LightEffects

/-- Up to `kMaxPixels` the loop of a pattern reaches every pixel. -/
theorem forEachPixel_fits {l : LedController} (hfits : l.totalPixelCount ≤ kMaxPixels)
    (ink : ℕ → Ink) :
    forEachPixel (pixelCount l) ink l =
      { l with sStrips := painted (fun g => (ink g).color) l.sStrips } := by
  have hcount : pixelCount l = (l.sStrips.map NeoPixel.numPixels).sum := by
    simp only [pixelCount]
    split
    · rfl
    · rename_i hmax
      exact Nat.le_antisymm (Nat.le_of_not_lt hmax) hfits
  rw [forEachPixel_eq, hcount, foldl_paintNth]

theorem repaints_forEachPixel (ink : ℕ → Ink) :
    LedController.Repaints fun l => forEachPixel (pixelCount l) ink l where
  eq l hl := by
    have hblank : l.blank.totalPixelCount ≤ kMaxPixels := (LedController.eraser.inv_erase l).mpr hl
    rw [forEachPixel_fits hl, forEachPixel_fits hblank, LedController.blank, painted_clear]
  keeps l hl := by
    have hsum := congrArg List.sum (map_numPixels_painted (fun g => (ink g).color) l.sStrips)
    rw [forEachPixel_fits hl]
    exact hsum.trans_le hl

end LightEffects

namespace Sketch

open Head

/-- The ink of a frame and the statics left behind depend on the strips through their pixel
count only, and that is not erased. -/
theorem blind_render (b : Board) (i : LoopInput) : Blind eraser (render b i) := by
  -- one ink and one new state for each thing the frame may read
  choose le' ink hrun using fun (gp : GamepadState) (le : LightEffects) (n : ℕ) =>
    LightEffects.runEffect_eq b (millis i.clock.effects) i.effectDraws
      (LightEffects.updateAccentFromGamepad gp le) n
  have hpaint : ∀ read : GamepadState × LightEffects × ℕ, Blind eraser fun h : Head =>
      { h with
        lights := le' read.1 read.2.1 read.2.2
        led := (LightEffects.forEachPixel (LightEffects.pixelCount h.led)
          (ink read.1 read.2.1 read.2.2) h.led).showAll } :=
    fun read => (blind_lights fun _ => le' read.1 read.2.1 read.2.2).comp
      (blind_led (LightEffects.repaints_forEachPixel (ink read.1 read.2.1 read.2.2)).showAll)
  have hrender : render b i = fun h =>
      { h with
        lights := le' h.gamepad.sState h.lights (LightEffects.pixelCount h.led)
        led := (LightEffects.forEachPixel (LightEffects.pixelCount h.led)
          (ink h.gamepad.sState h.lights (LightEffects.pixelCount h.led)) h.led).showAll } := by
    funext h
    simp only [render, LightEffects.update, hrun h.gamepad.sState h.lights _ h.led rfl]
  have hcount : ∀ h : Head, LightEffects.pixelCount h.bare.led = LightEffects.pixelCount h.led := by
    intro h
    have htotal : h.bare.led.totalPixelCount = h.led.totalPixelCount :=
      LedController.totalPixelCount_blank h.led
    simp only [LightEffects.pixelCount, htotal]
  rw [hrender]
  exact Blind.reading
    (k := fun h : Head => (h.gamepad.sState, h.lights, LightEffects.pixelCount h.led))
    (fun h => congrArg (fun n => (h.gamepad.sState, h.lights, n)) (hcount h)) hpaint

/-- A whole tick is blind to the pixel buffers and the logs. -/
theorem blind_loop (b : Board) (i : LoopInput) : Blind eraser fun h => loop b h i :=
  ((blind_poll b i).comp (blind_act b i)).comp (blind_render b i)

/-! ## Selecting a pattern -/

/-- `LightEffects::selectEffect` called on the head. -/
def selectEffect (now : UInt32) (index : UInt8) (h : Head) : Head :=
  { h with lights := h.lights.selectEffect now index }

/-- What two heads must agree on: all the firmware's state but the running pattern, its start
time and scratch, and the pixel buffers. -/
def unpatterned (h : Head) : Head :=
  { h.bare with
    lights := { h.lights with sEffect := .solid, sEffectStartMs := 0, sScratch := fun _ => 0 } }

/-- Selecting a pattern leaves nothing of the one before. -/
theorem bare_selectEffect {h₁ h₂ : Head} (hagree : unpatterned h₁ = unpatterned h₂) (now : UInt32)
    {index : UInt8} (hvalid : index.toNat < Effect.kCount) :
    (selectEffect now index h₁).bare = (selectEffect now index h₂).bare := by
  have hselect : ∀ h : Head, (selectEffect now index h).bare =
      { unpatterned h with
        lights := { (unpatterned h).lights with
          sEffect := Effect.ofIndex index.toNat, sEffectStartMs := now } } := by
    intro h
    -- a valid index overwrites exactly the three statics that may differ
    simp only [selectEffect, LightEffects.selectEffect, if_neg (Nat.not_le_of_lt hvalid)]
    rfl
  rw [hselect, hselect, hagree]

/-- Two heads with at most `kMaxPixels` pixels that agree on all but the running pattern and
the pixel buffers push the same frames from the same selection on, over every run of ticks. -/
theorem frames_carry_no_history (b : Board) (h₁ h₂ : Head) (now : UInt32) (index : UInt8)
    (ticks : List LoopInput) (hfits : h₁.led.totalPixelCount ≤ kMaxPixels)
    (hagree : unpatterned h₁ = unpatterned h₂) (hvalid : index.toNat < Effect.kCount) :
    ∃ frames,
      (run (loop b) (selectEffect now index h₁) ticks).led.pushed = h₁.led.pushed ++ frames ∧
      (run (loop b) (selectEffect now index h₂) ticks).led.pushed = h₂.led.pushed ++ frames :=
  (Blind.run (blind_loop b) ticks).same_output (s := selectEffect now index h₁)
    (t := selectEffect now index h₂) hfits (bare_selectEffect hagree now hvalid)

/-- A head fresh from `setup()`, and the same head with Strobe selected since and a pixel
lit.  Both switch to Fire. -/
theorem strobe_and_lit_pixel_forgotten :
    let b := esp32DevKitC fun _ => 0
    let fresh := setup b 0 lowestRearm
    let lit := { selectEffect 500 12 fresh with led := fresh.led.setPixel 0 3 ⟨255, 0, 0⟩ }
    let ticks := [padTick 2010 [] none, padTick 2040 [.connected 0] (some { buttons := 0x1 })]
    ∃ frames,
      (run (loop b) (selectEffect 2000 11 fresh) ticks).led.pushed = fresh.led.pushed ++ frames ∧
      (run (loop b) (selectEffect 2000 11 lit) ticks).led.pushed = lit.led.pushed ++ frames := by
  intro b fresh lit ticks
  have hstrips : lit.led.sStrips.map NeoPixel.clear = fresh.led.sStrips.map NeoPixel.clear := by
    decide
  have hblank : lit.led.blank = fresh.led.blank :=
    congrArg (fun strips => { fresh.led with sStrips := strips, pushed := [] }) hstrips
  have hagree : unpatterned fresh = unpatterned lit :=
    congrArg (fun led => { unpatterned fresh with led := led }) hblank.symm
  exact frames_carry_no_history b fresh lit 2000 11 ticks (by decide) hagree (by decide)

end Sketch

end K2soHead
