import K2soHead.Firmware.LedController
import K2soHead.Library.Loops

/-!
# What the LedController operations do to the strips

Closed forms of the loops over strips and pixels, the flattened index as a prefix sum,
and what every operation keeps: the strip lengths always, and each strip's own
brightness whenever only pixels are written.
-/

namespace K2soHead

open Loops

namespace NeoPixel

/-! ## One strip -/

/-- Writing past the end changes nothing, so the bound can be left to `List.set`. -/
theorem setPixelColor_eq (n : ℕ) (c : Rgb) (p : NeoPixel) :
    p.setPixelColor n c = { p with pixels := p.pixels.set n (c.map (scale p.brightness)) } := by
  unfold setPixelColor numPixels
  split
  · rfl
  · rename_i h
    rw [List.set_eq_of_length_le (Nat.le_of_not_lt h)]

/-- At applied brightness 0 every component is stored as 0. -/
theorem scale_one (c : UInt8) : scale 1 c = 0 := by
  have hlt := c.toNat_lt
  -- applied 0 is stored as 1, and a byte times 1 is below 256
  have hdiv : c.toNat * (1 : UInt8).toNat / 256 = 0 := by
    rw [show (1 : UInt8).toNat = 1 from rfl]
    omega
  rw [scale, if_neg (by decide), hdiv]
  rfl

theorem map_scale_one (c : Rgb) : c.map (scale 1) = Rgb.black := by
  simp [Rgb.map, Rgb.black, scale_one]

end NeoPixel

namespace LedController

theorem foldl_setPixelColor (color : ℕ → Rgb) (p : NeoPixel) (is : List ℕ) :
    is.foldl (fun p i => p.setPixelColor i (color i)) p =
      { p with
        pixels := is.foldl
          (fun px i => px.set i ((color i).map (NeoPixel.scale p.brightness))) p.pixels } := by
  induction is generalizing p with
  | nil => rfl
  | cons i is ih => rw [List.foldl_cons, NeoPixel.setPixelColor_eq, ih, List.foldl_cons]

/-- Painting every pixel, each in its own colour. -/
theorem foldl_setPixelColor_range (color : ℕ → Rgb) (p : NeoPixel) :
    (List.range p.numPixels).foldl (fun p i => p.setPixelColor i (color i)) p =
      { p with
        pixels := (List.range p.numPixels).map fun i =>
          (color i).map (NeoPixel.scale p.brightness) } := by
  rw [foldl_setPixelColor, NeoPixel.numPixels, foldl_range_set]

/-- Painting every pixel leaves nothing of the old buffer. -/
theorem paintAll_eq (c : Rgb) (p : NeoPixel) :
    paintAll c p =
      { p with pixels := List.replicate p.numPixels (c.map (NeoPixel.scale p.brightness)) } := by
  rw [paintAll, foldl_setPixelColor_range, List.map_const', List.length_range]

@[simp] theorem numPixels_paintAll (c : Rgb) (p : NeoPixel) :
    (paintAll c p).numPixels = p.numPixels := by
  rw [paintAll_eq, NeoPixel.numPixels, List.length_replicate]

@[simp] theorem brightness_paintAll (c : Rgb) (p : NeoPixel) :
    (paintAll c p).brightness = p.brightness := by
  rw [paintAll_eq]

/-! ## One strip of the list -/

theorem getElem?_modifyStrip (s : ℕ) (f : NeoPixel → NeoPixel) (l : LedController) (i : ℕ) :
    (l.modifyStrip s f).sStrips[i]? =
      if s = i then l.sStrips[i]?.map f else l.sStrips[i]? := by
  rw [modifyStrip, List.getElem?_modify]
  split
  · rfl
  · exact Option.map_id'

@[simp] theorem length_modifyStrip (s : ℕ) (f : NeoPixel → NeoPixel) (l : LedController) :
    (l.modifyStrip s f).sStrips.length = l.sStrips.length :=
  List.length_modify _ _ _

/-! ## Loops over the strips -/

/-- A loop whose body modifies strip `i` by something that does not read the strips. -/
theorem forEachStrip_modify (f : LedController → ℕ → NeoPixel → NeoPixel)
    (hf : ∀ l strips, f { l with sStrips := strips } = f l) (l : LedController) :
    forEachStrip (fun i l => l.modifyStrip i (f l i)) l =
      { l with sStrips := l.sStrips.mapIdx (f l) } := by
  -- no turn changes what the next one reads, so `f l` is fixed for the whole loop
  have hfold : ∀ (is : List ℕ) (l : LedController),
      is.foldl (fun l i => l.modifyStrip i (f l i)) l =
        { l with sStrips := is.foldl (fun ps i => ps.modify i (f l i)) l.sStrips } := by
    intro is
    induction is with
    | nil => intro l; rfl
    | cons i is ih =>
      intro l
      rw [List.foldl_cons, ih, List.foldl_cons, modifyStrip, hf]
  rw [forEachStrip, hfold, foldl_range_modify]

/-- Every strip is told its own product. -/
theorem forEachStrip_apply (l : LedController) :
    forEachStrip applyStripBrightness l =
      { l with
        sStrips := l.sStrips.mapIdx fun i => NeoPixel.setBrightness (l.effective i).toUInt8 } :=
  forEachStrip_modify (fun l i => NeoPixel.setBrightness (l.effective i).toUInt8)
    (fun _ _ => rfl) l

theorem setBrightness_eq (b : UInt8) (l : LedController) :
    l.setBrightness b =
      { l with
        sGlobalBrightness := b
        sStrips := l.sStrips.mapIdx fun i =>
          NeoPixel.setBrightness (effective { l with sGlobalBrightness := b } i).toUInt8 } := by
  rw [setBrightness, forEachStrip_apply]

theorem setBlinkLevel_eq {level : UInt8} {l : LedController} (h : level ≠ l.sBlinkLevel) :
    l.setBlinkLevel level =
      { l with
        sBlinkLevel := level
        sStrips := l.sStrips.mapIdx fun i =>
          NeoPixel.setBrightness (effective { l with sBlinkLevel := level } i).toUInt8 } := by
  rw [setBlinkLevel, if_neg h, forEachStrip_apply]

@[simp] theorem sBlinkLevel_setBlinkLevel (level : UInt8) (l : LedController) :
    (l.setBlinkLevel level).sBlinkLevel = level := by
  by_cases h : level = l.sBlinkLevel
  · rw [setBlinkLevel, if_pos h, h]
  · rw [setBlinkLevel_eq h]

theorem sBlinkLevel_beginStrips (counts : List UInt32) (l : LedController) :
    (l.beginStrips counts).sBlinkLevel = l.sBlinkLevel := by
  induction counts generalizing l with
  | nil => rfl
  | cons n counts ih => exact ih _

theorem clearAll_eq (l : LedController) :
    l.clearAll = { l with sStrips := l.sStrips.map NeoPixel.clear } := by
  rw [← mapIdx_ignore]
  exact forEachStrip_modify (fun _ _ => NeoPixel.clear) (fun _ _ => rfl) l

theorem fillAllHSV_eq (hue : UInt16) (saturation value : UInt8) (l : LedController) :
    l.fillAllHSV hue saturation value =
      { l with sStrips := l.sStrips.map (paintAll (hsv hue saturation value)) } := by
  rw [← mapIdx_ignore]
  exact forEachStrip_modify (fun _ _ => paintAll (hsv hue saturation value)) (fun _ _ => rfl) l

/-- `showAll` transmits every strip in order and changes no pixel. -/
theorem showAll_eq (l : LedController) :
    l.showAll = { l with pushed := l.pushed ++ l.sStrips.mapIdx fun i p => (i, p.pixels) } := by
  -- after `n` turns the first `n` strips are out
  have hfold : ∀ n ≤ l.sStrips.length,
      (List.range n).foldl (fun l i => showStrip i l) l =
        { l with
          pushed := l.pushed ++ (l.sStrips.mapIdx fun i p => (i, p.pixels)).take n } := by
    intro n
    induction n with
    | zero => intro _; simp
    | succ n ih =>
      intro hn
      rw [List.range_succ, List.foldl_append, ih (by omega), List.foldl_cons, List.foldl_nil]
      have hlt : n < l.sStrips.length := by omega
      simp only [showStrip, List.getElem?_eq_getElem hlt, List.append_assoc]
      rw [List.take_add_one, List.getElem?_mapIdx, List.getElem?_eq_getElem hlt]
      rfl
  rw [showAll, forEachStrip, hfold _ (Nat.le_refl _), List.take_of_length_le (by simp)]

end LedController

end K2soHead
