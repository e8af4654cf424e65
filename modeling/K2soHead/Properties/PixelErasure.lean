import K2soHead.Library.Erasure
import K2soHead.Firmware.Sketch
import K2soHead.Properties.LedStrips

/-!
# What a tick computes without looking at the pixels

`bare` blanks the pixel buffers and drops the logs of a head.  Every block of `loop()` up
to the rendering is blind to what `bare` drops, though the blocks that flash or show
put out frames of their own.
-/

namespace K2soHead

open Erasure

/-! ## Strips -/

namespace NeoPixel

/-- A cleared strip is its length and its brightness. -/
theorem clear_congr {p q : NeoPixel} (hlen : p.numPixels = q.numPixels)
    (hbrightness : p.brightness = q.brightness) : p.clear = q.clear := by
  have hlen : p.pixels.length = q.pixels.length := hlen
  rw [clear, clear, List.map_const', List.map_const', hlen, hbrightness]

theorem clear_clear (p : NeoPixel) : p.clear.clear = p.clear :=
  clear_congr (numPixels_clear p) (brightness_clear p)

theorem clear_setBrightness (b : UInt8) (p : NeoPixel) :
    (p.clear.setBrightness b).clear = (p.setBrightness b).clear :=
  clear_congr (by simp) (by simp)

theorem paintAll_clear (c : Rgb) (p : NeoPixel) :
    LedController.paintAll c p.clear = LedController.paintAll c p := by
  rw [LedController.paintAll_eq, LedController.paintAll_eq, numPixels_clear, brightness_clear]

end NeoPixel

namespace LedController

/-- The strips blanked and the log dropped. -/
def blank (l : LedController) : LedController :=
  { l with sStrips := l.sStrips.map NeoPixel.clear, pushed := [] }

@[simp] theorem totalPixelCount_blank (l : LedController) :
    l.blank.totalPixelCount = l.totalPixelCount := by
  simp [totalPixelCount, blank, Function.comp_def]

/-- The pixel buffers are erased, and what was pushed is the output. -/
def eraser : Eraser LedController (ℕ × List Rgb) where
  erase := blank
  output := pushed
  Inv l := l.totalPixelCount ≤ kMaxPixels
  erase_erase l := by simp [blank, Function.comp_def, NeoPixel.clear_clear]
  output_erase _ := rfl
  inv_erase l := by rw [totalPixelCount_blank]

/-! ### Writes -/

theorem map_clear_modify {f : NeoPixel → NeoPixel} (hf : ∀ p, (f p.clear).clear = (f p).clear)
    (i : ℕ) (strips : List NeoPixel) :
    ((strips.map NeoPixel.clear).modify i f).map NeoPixel.clear =
      (strips.modify i f).map NeoPixel.clear := by
  apply List.ext_getElem?
  intro j
  simp only [List.getElem?_map, List.getElem?_modify]
  cases strips[j]? with
  | none => rfl
  | some p =>
    -- the written strip by `hf`, the others because clearing twice is clearing
    by_cases hij : i = j
    · simp [hij, hf]
    · simp [hij, NeoPixel.clear_clear]

/-- Writing one strip, by something that keeps its length. -/
theorem blind_modifyStrip (i : ℕ) {f : NeoPixel → NeoPixel}
    (hclear : ∀ p, (f p.clear).clear = (f p).clear) (hlen : ∀ p, (f p).numPixels = p.numPixels) :
    Blind eraser (modifyStrip i f) := by
  refine Blind.of_silent (fun l => ?_) (fun _ => rfl) fun l hl => ?_
  · have hstrips := map_clear_modify hclear i l.sStrips
    simp only [eraser, blank, modifyStrip, hstrips]
  · have hcount : (l.modifyStrip i f).totalPixelCount = l.totalPixelCount :=
      congrArg List.sum (Loops.map_modify hlen i l.sStrips)
    exact hcount.trans_le hl

theorem blind_forEachStrip {body : ℕ → LedController → LedController}
    (hbody : ∀ i, Blind eraser (body i)) : Blind eraser (forEachStrip body) := by
  have hloop : Blind eraser fun l : LedController =>
      (List.range l.sStrips.length).foldl (fun l i => body i l) l :=
    Blind.reading (k := fun l : LedController => l.sStrips.length)
      (g := fun n l => (List.range n).foldl (fun l i => body i l) l)
      (fun _ => List.length_map _) fun n => Blind.foldl hbody (List.range n)
  exact hloop

theorem blind_applyStripBrightness (i : ℕ) : Blind eraser (applyStripBrightness i) := by
  have happly : Blind eraser fun l : LedController =>
      l.modifyStrip i (NeoPixel.setBrightness (l.effective i).toUInt8) :=
    Blind.reading (k := fun l : LedController => l.effective i)
      (g := fun e l => l.modifyStrip i (NeoPixel.setBrightness e.toUInt8)) (fun _ => rfl)
      fun _ => blind_modifyStrip i (NeoPixel.clear_setBrightness _)
        (NeoPixel.numPixels_setBrightness _)
  exact happly

theorem blind_setBrightness (brightness : UInt8) : Blind eraser (setBrightness brightness) := by
  have hglobal : Blind eraser fun l => { l with sGlobalBrightness := brightness } :=
    Blind.of_commutes (fun _ => rfl) (fun _ => rfl) fun _ hl => hl
  exact hglobal.comp (blind_forEachStrip blind_applyStripBrightness)

theorem blind_setStripDim (s : ℕ) (dim : UInt8) : Blind eraser (setStripDim s dim) := by
  have hdim : Blind eraser fun l => { l with sStripDim := Function.update l.sStripDim s dim } :=
    Blind.of_commutes (fun _ => rfl) (fun _ => rfl) fun _ hl => hl
  unfold setStripDim
  split
  · exact hdim.comp (blind_applyStripBrightness s)
  · exact Blind.id

theorem blind_setBlinkLevel (level : UInt8) : Blind eraser (setBlinkLevel level) := by
  have hlevel : Blind eraser fun l => { l with sBlinkLevel := level } :=
    Blind.of_commutes (fun _ => rfl) (fun _ => rfl) fun _ hl => hl
  unfold setBlinkLevel
  exact Blind.ite (fun _ => Iff.rfl) Blind.id
    (hlevel.comp (blind_forEachStrip blind_applyStripBrightness))

/-! ### Frames -/

/-- What `f` leaves in the strips does not depend on what was in them, and it fits. -/
structure Repaints (f : LedController → LedController) : Prop where
  eq : ∀ l, eraser.Inv l → f l = { f l.blank with pushed := l.pushed }
  keeps : ∀ l, eraser.Inv l → eraser.Inv (f l)

/-- Showing is blind right after a repaint, and only then. -/
theorem Repaints.showAll {f : LedController → LedController} (hf : Repaints f) :
    Blind eraser fun l => (f l).showAll where
  erase_eq l hl := by
    rw [hf.eq l hl, showAll_eq, showAll_eq]
    rfl
  output_eq l hl := by
    -- repainting itself pushes nothing
    have hblank : (f l.blank).pushed = [] := by
      rw [hf.eq l.blank ((eraser.inv_erase l).mpr hl)]
      rfl
    have herase : eraser.erase l = l.blank := rfl
    rw [hf.eq l hl, showAll_eq, herase, showAll_eq]
    simp only [eraser, hblank, List.nil_append]
  keeps l hl := by
    rw [showAll_eq]
    exact hf.keeps l hl

theorem repaints_clearAll : Repaints clearAll where
  eq l _ := by
    rw [clearAll_eq, clearAll_eq]
    simp [blank, Function.comp_def, NeoPixel.clear_clear]
  keeps l hl := by
    rw [clearAll_eq]
    exact (totalPixelCount_blank l).trans_le hl

theorem repaints_fillAllHSV (hue : UInt16) (saturation value : UInt8) :
    Repaints (fillAllHSV hue saturation value) where
  eq l _ := by
    rw [fillAllHSV_eq, fillAllHSV_eq]
    simp [blank, Function.comp_def, NeoPixel.paintAll_clear]
  keeps l hl := by
    have hcount : (l.fillAllHSV hue saturation value).totalPixelCount = l.totalPixelCount := by
      rw [fillAllHSV_eq]
      simp [totalPixelCount, Function.comp_def]
    exact hcount.trans_le hl

end LedController

end K2soHead
