import K2soHead.Firmware.Sketch
import K2soHead.Properties.AppliedBrightness

/-!
# The admin acknowledgement

`flashAdminAck` opens two of the three multipliers of a strip and puts one of them back.
What it shows is read off the transmission log: two rounds of a lit frame for every strip and
a dark one for every strip.

- `opened`: the strips at the moment the first flash is painted
- `ackFrames_eq`: the four frames
- `flash_visible_iff`: when every strip shows a colour in both flashes
-/

namespace K2soHead

open Loops LedController

namespace Sketch

/-! ## What is asked of it -/

/-- What the acknowledgement transmits, oldest first. -/
def ackFrames (apNowRunning : Bool) (l : LedController) : List (ℕ × List Rgb) :=
  (flashAdminAck apNowRunning l).pushed.drop l.pushed.length

/-- In both flashes every strip is sent some pixel that is not black.  A flash and the dark
frame after it take two rounds over the strips. -/
def FlashVisible (apNowRunning : Bool) (l : LedController) : Prop :=
  ∀ k < 2, ∀ i < l.sStrips.length, ∃ pixels,
    (ackFrames apNowRunning l)[2 * k * l.sStrips.length + i]? = some (i, pixels) ∧
      ∃ c ∈ pixels, c ≠ Rgb.black

/-- The three multipliers are as they were on entry. -/
def MultipliersKept (apNowRunning : Bool) (l : LedController) : Prop :=
  (flashAdminAck apNowRunning l).brightness = l.brightness ∧
    (∀ i, (flashAdminAck apNowRunning l).sStripDim i = l.sStripDim i) ∧
    (flashAdminAck apNowRunning l).sBlinkLevel = l.sBlinkLevel

/-! ## The frames -/

/-- The strips with the blink level and the global brightness forced open. -/
def opened (l : LedController) : LedController := (l.setBlinkLevel 255).setBrightness 160

/-- Green when the access point has come up, red when it has gone down. -/
def ackColor (apNowRunning : Bool) : Rgb := if apNowRunning then ⟨0, 255, 0⟩ else ⟨255, 0, 0⟩

def litFrame (c : Rgb) (l : LedController) : List (ℕ × List Rgb) :=
  l.sStrips.mapIdx fun i p => (i, List.replicate p.numPixels (c.map (NeoPixel.scale p.brightness)))

def darkFrame (l : LedController) : List (ℕ × List Rgb) :=
  l.sStrips.mapIdx fun i p => (i, List.replicate p.numPixels Rgb.black)

theorem flash_eq (hue : UInt16) (l : LedController) :
    flash hue l =
      { l with
        sStrips := l.sStrips.map NeoPixel.clear
        pushed := l.pushed ++ (litFrame (hsv hue 255 255) l ++ darkFrame l) } := by
  have hclear : ∀ p : NeoPixel, (paintAll (hsv hue 255 255) p).clear = p.clear := by
    intro p
    rw [paintAll_eq]
    simp [NeoPixel.clear, NeoPixel.numPixels, List.map_const']
  have hlit : ∀ p : NeoPixel, (paintAll (hsv hue 255 255) p).pixels =
      List.replicate p.numPixels ((hsv hue 255 255).map (NeoPixel.scale p.brightness)) := by
    intro p
    rw [paintAll_eq]
  have hdark : ∀ p : NeoPixel, p.clear.pixels = List.replicate p.numPixels Rgb.black := by
    intro p
    rw [NeoPixel.clear, List.map_const', NeoPixel.numPixels]
  simp only [flash, fillAllHSV_eq, showAll_eq, clearAll_eq, List.map_map, Function.comp_def,
    hclear, mapIdx_map, hlit, hdark, litFrame, darkFrame, List.append_assoc]

/-- Clearing moves neither the length nor the brightness of a strip, so the second flash is
the first one again. -/
theorem flash_flash (hue : UInt16) (l : LedController) :
    flash hue (flash hue l) =
      { l with
        sStrips := l.sStrips.map NeoPixel.clear
        pushed := l.pushed ++ (litFrame (hsv hue 255 255) l ++ darkFrame l ++
          (litFrame (hsv hue 255 255) l ++ darkFrame l)) } := by
  have hclear : ∀ p : NeoPixel, p.clear.clear = p.clear := by
    intro p
    simp [NeoPixel.clear]
  rw [flash_eq hue l, flash_eq]
  simp only [litFrame, darkFrame, mapIdx_map, List.map_map, Function.comp_def, hclear,
    NeoPixel.numPixels_clear, NeoPixel.brightness_clear, List.append_assoc]

/-! ## The strips held open -/

theorem opened_eq (l : LedController) :
    ∃ strips : List NeoPixel, strips.map NeoPixel.numPixels = l.sStrips.map NeoPixel.numPixels ∧
      opened l = { l with sGlobalBrightness := 160, sBlinkLevel := 255, sStrips := strips } := by
  have hkeeps : ∀ (level : ℕ → UInt8) (strips : List NeoPixel),
      (strips.mapIdx fun i => NeoPixel.setBrightness (level i)).map NeoPixel.numPixels =
        strips.map NeoPixel.numPixels :=
    fun level strips =>
      map_mapIdx_of_keeps (fun i p => NeoPixel.numPixels_setBrightness (level i) p) strips
  rw [opened, setBrightness_eq]
  by_cases hsame : 255 = l.sBlinkLevel
  · rw [setBlinkLevel, if_pos hsame, hsame]
    exact ⟨_, hkeeps _ l.sStrips, rfl⟩
  · rw [setBlinkLevel_eq hsame]
    exact ⟨_, (hkeeps _ _).trans (hkeeps _ l.sStrips), rfl⟩

theorem inStep_opened (l : LedController) : (opened l).InStep := by
  rw [opened, setBrightness]
  exact inStep_forEachStrip _

theorem flashAdminAck_eq (apNowRunning : Bool) (l : LedController) :
    flashAdminAck apNowRunning l =
      LedController.setBrightness l.sGlobalBrightness { opened l with
        sStrips := (opened l).sStrips.map NeoPixel.clear
        pushed := l.pushed ++
          (litFrame (ackColor apNowRunning) (opened l) ++ darkFrame (opened l) ++
            (litFrame (ackColor apNowRunning) (opened l) ++ darkFrame (opened l))) } := by
  have hcolor : hsv (if apNowRunning then 120 else 0) 255 255 = ackColor apNowRunning := by
    cases apNowRunning <;> decide
  have hpushed : (opened l).pushed = l.pushed := by
    obtain ⟨strips, -, hopened⟩ := opened_eq l
    rw [hopened]
  rw [← hcolor, ← hpushed, ← flash_flash]
  rfl

/-- The frames of the acknowledgement: twice a lit one and a dark one. -/
theorem ackFrames_eq (apNowRunning : Bool) (l : LedController) :
    ackFrames apNowRunning l =
      litFrame (ackColor apNowRunning) (opened l) ++ darkFrame (opened l) ++
        (litFrame (ackColor apNowRunning) (opened l) ++ darkFrame (opened l)) := by
  rw [ackFrames, flashAdminAck_eq, setBrightness_eq]
  exact List.drop_left

/-! ## What is seen of it -/

/-- A full component is stored as 0 on a strip told to apply 0, and on no other. -/
theorem scale_full_eq_zero_iff (b : UInt8) : NeoPixel.scale b 255 = 0 ↔ b = 1 := by
  have hlt := b.toNat_lt
  have hfull : (255 : UInt8).toNat = 255 := rfl
  have hzero : (0 : UInt8).toNat = 0 := rfl
  have hone : (1 : UInt8).toNat = 1 := rfl
  rw [NeoPixel.scale]
  split
  · rename_i hskipped
    subst hskipped
    exact iff_of_false (by decide) (by decide)
  · rename_i hscaled
    rw [← UInt8.toNat_inj, hzero] at hscaled
    rw [← UInt8.toNat_inj, ← UInt8.toNat_inj, UInt8.toNat_ofNat', hfull, hzero, hone,
      Nat.mod_eq_of_lt (by omega)]
    omega

theorem ackColor_black_iff (apNowRunning : Bool) (b : UInt8) :
    (ackColor apNowRunning).map (NeoPixel.scale b) = Rgb.black ↔ b = 1 := by
  have hdark : b = 1 → NeoPixel.scale b 0 = 0 := by
    rintro rfl
    exact NeoPixel.scale_one 0
  rw [← scale_full_eq_zero_iff] at hdark ⊢
  cases apNowRunning with
  | true =>
    simp only [ackColor, if_true, Rgb.map, Rgb.black, Rgb.mk.injEq]
    exact ⟨fun h => h.2.1, fun h => ⟨hdark h, h, hdark h⟩⟩
  | false =>
    simp only [ackColor, Bool.false_eq_true, if_false, Rgb.map, Rgb.black, Rgb.mk.injEq]
    exact ⟨fun h => h.1, fun h => ⟨h, hdark h, hdark h⟩⟩

/-- A strip held open applies 0 exactly if its dim is 0 or 1. -/
theorem brightness_opened_iff {l : LedController} {i : ℕ} {p : NeoPixel}
    (hp : (opened l).sStrips[i]? = some p) : p.brightness = 1 ↔ l.sStripDim i < 2 := by
  have hproduct : (opened l).product i = 160 * (l.sStripDim i).toNat * 255 := by
    obtain ⟨strips, -, hopened⟩ := opened_eq l
    rw [hopened]
    rfl
  have hlevel : p.getBrightness.toNat = 160 * (l.sStripDim i).toNat * 255 / 65025 := by
    rw [inStep_opened l i p hp, toNat_effective_toUInt8, hproduct]
  have hstored : p.brightness = 1 ↔ p.getBrightness = 0 := by
    rw [NeoPixel.getBrightness]
    grind
  have hzero : p.getBrightness = 0 ↔ p.getBrightness.toNat = 0 := UInt8.toNat_inj.symm
  have htwo : (2 : UInt8).toNat = 2 := rfl
  rw [hstored, hzero, hlevel, UInt8.lt_iff_toNat_lt, htwo]
  omega

/-- Opening keeps the strips and their lengths. -/
theorem opened_strip {l : LedController} {i : ℕ} (hi : i < l.sStrips.length) :
    ∃ p, (opened l).sStrips[i]? = some p ∧ p.numPixels = l.sStrips[i].numPixels := by
  obtain ⟨strips, hlengths, hopened⟩ := opened_eq l
  have hn := congrArg (fun counts : List ℕ => counts[i]?) hlengths
  simp only [List.getElem?_map, List.getElem?_eq_getElem hi, Option.map_some] at hn
  rw [hopened]
  exact Option.map_eq_some_iff.mp hn

theorem length_opened (l : LedController) : (opened l).sStrips.length = l.sStrips.length := by
  obtain ⟨strips, hlengths, hopened⟩ := opened_eq l
  rw [hopened]
  simpa using congrArg List.length hlengths

/-- What flash `k` sends to strip `i`. -/
theorem ackFrames_getElem? (apNowRunning : Bool) (l : LedController) {k : ℕ} (hk : k < 2) {i : ℕ}
    (hi : i < l.sStrips.length) :
    (ackFrames apNowRunning l)[2 * k * l.sStrips.length + i]? =
      (litFrame (ackColor apNowRunning) (opened l))[i]? := by
  have hlit : (litFrame (ackColor apNowRunning) (opened l)).length = l.sStrips.length := by
    rw [litFrame, List.length_mapIdx, length_opened]
  have hround : (litFrame (ackColor apNowRunning) (opened l) ++ darkFrame (opened l)).length =
      2 * l.sStrips.length := by
    rw [List.length_append, hlit, darkFrame, List.length_mapIdx, length_opened]
    omega
  rw [ackFrames_eq]
  rcases Nat.lt_or_ge k 1 with hfirst | hsecond
  · obtain rfl : k = 0 := by omega
    rw [Nat.mul_zero, Nat.zero_mul, Nat.zero_add, List.append_assoc,
      List.getElem?_append_left (by omega)]
  · obtain rfl : k = 1 := by omega
    -- the second lit frame comes after a whole round
    rw [List.getElem?_append_right (by omega), hround, List.getElem?_append_left (by omega)]
    congr 1
    omega

/-- Both flashes show on every strip exactly if no strip's own dim hides them. -/
theorem flash_visible_iff (apNowRunning : Bool) {l : LedController}
    (hpixels : ∀ p ∈ l.sStrips, 0 < p.numPixels) :
    FlashVisible apNowRunning l ↔ ∀ i < l.sStrips.length, 2 ≤ l.sStripDim i := by
  have hstrip : ∀ i < l.sStrips.length,
      ((∃ pixels, (litFrame (ackColor apNowRunning) (opened l))[i]? = some (i, pixels) ∧
        ∃ c ∈ pixels, c ≠ Rgb.black) ↔ 2 ≤ l.sStripDim i) := by
    intro i hi
    obtain ⟨p, hp, hn⟩ := opened_strip hi
    have hpos : p.numPixels ≠ 0 := by
      have := hpixels _ (List.getElem_mem hi)
      omega
    have hframe : (litFrame (ackColor apNowRunning) (opened l))[i]? =
        some (i, List.replicate p.numPixels
          ((ackColor apNowRunning).map (NeoPixel.scale p.brightness))) := by
      rw [litFrame, List.getElem?_mapIdx, hp]
      rfl
    have hdim : 2 ≤ l.sStripDim i ↔ ¬ l.sStripDim i < 2 := UInt8.not_lt.symm
    rw [hframe, hdim, ← brightness_opened_iff hp, ← ackColor_black_iff apNowRunning]
    constructor
    · rintro ⟨pixels, hpixels, c, hc, hlit⟩
      obtain ⟨-, rfl⟩ := Prod.mk.injEq .. ▸ Option.some.inj hpixels
      rwa [← List.eq_of_mem_replicate hc]
    · intro hlit
      exact ⟨_, rfl, _, List.mem_replicate.mpr ⟨hpos, rfl⟩, hlit⟩
  constructor
  · intro hvisible i hi
    have hframe := hvisible 0 (by decide) i hi
    rw [ackFrames_getElem? apNowRunning l (by decide) hi] at hframe
    exact (hstrip i hi).mp hframe
  · intro hdims k hk i hi
    rw [ackFrames_getElem? apNowRunning l hk hi]
    exact (hstrip i hi).mpr (hdims i hi)

/-- The global brightness is put back, the dims are never moved, the blink level stays open. -/
theorem multipliersKept_iff (apNowRunning : Bool) (l : LedController) :
    MultipliersKept apNowRunning l ↔ l.sBlinkLevel = 255 := by
  obtain ⟨strips, -, hopened⟩ := opened_eq l
  rw [MultipliersKept, flashAdminAck_eq, setBrightness_eq, hopened]
  refine ⟨fun h => h.2.2.symm, fun h => ⟨rfl, fun _ => rfl, h.symm⟩⟩

/-- Whatever the multipliers are, the acknowledgement shows on every strip in both flashes and
leaves all three as they were if and only if no strip is dimmed below 2 and the blink level is
open already. -/
theorem ack_visible_without_trace_iff (apNowRunning : Bool) {l : LedController}
    (hpixels : ∀ p ∈ l.sStrips, 0 < p.numPixels) :
    FlashVisible apNowRunning l ∧ MultipliersKept apNowRunning l ↔
      (∀ i < l.sStrips.length, 2 ≤ l.sStripDim i) ∧ l.sBlinkLevel = 255 := by
  rw [flash_visible_iff apNowRunning hpixels, multipliersKept_iff]

/-- Two strips right after `begin`. -/
theorem ack_on_open_strips :
    let l := LedController.begin [7, 7] {}
    FlashVisible true l ∧ MultipliersKept true l := by
  intro l
  exact (ack_visible_without_trace_iff true (by decide)).mpr ⟨by decide, rfl⟩

/-- With the left trigger pulled all the way the flash never shows on its side, and a blink in
flight is left open. -/
theorem ack_hidden_and_blink_lost :
    let l := LedController.begin [7, 7] {}
    ¬ FlashVisible true (l.setStripDim 0 0) ∧ ¬ MultipliersKept true (l.setBlinkLevel 25) ∧
      ¬ ∀ apNowRunning (l : LedController), (∀ p ∈ l.sStrips, 0 < p.numPixels) →
        FlashVisible apNowRunning l ∧ MultipliersKept apNowRunning l := by
  intro l
  have hpixels : ∀ p ∈ (l.setStripDim 0 0).sStrips, 0 < p.numPixels := by decide
  have hhidden : ¬ FlashVisible true (l.setStripDim 0 0) := by
    rw [flash_visible_iff true hpixels]
    decide
  refine ⟨hhidden, ?_, fun h => hhidden (h true _ hpixels).1⟩
  rw [multipliersKept_iff]
  decide

end Sketch

end K2soHead
