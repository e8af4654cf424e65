import K2soHead.Firmware.Sketch
import K2soHead.Firmware.WiiParser
import K2soHead.Properties.AnalogMaps
import Mathlib.Data.Set.Operations

/-!
# Triggers and sticks beyond their range

`loop()` and `updateAccentFromGamepad` interpolate without clamping and narrow the result, so a
value beyond the documented range wraps to the opposite extreme as soon as its overshoot is worth
one step.  `Absorbed` says when it is not, and `PadValues` is whatever a pad can deliver.
-/

namespace K2soHead

/-! ## The two mappings -/

/-- The strip dim of a trigger value. -/
def triggerDim (v : ℤ) : UInt8 := UInt8.ofInt (Arduino.map v 0 1023 255 0)

/-- The hue of a stick value. -/
def stickHue (x : ℤ) : UInt16 := UInt16.ofInt (Arduino.map x (-511) 512 0 359)

theorem dimStrips_eq (gp : GamepadState) (h : Head) :
    Sketch.dimStrips gp h =
      { h with
        led := (h.led.setStripDim 0 (triggerDim gp.brake)).setStripDim 1
          (triggerDim gp.throttle) } := rfl

theorem updateAccentFromGamepad_eq {gp : GamepadState} (hconnected : gp.connected = true)
    (hpushed : LightEffects.stickCentered gp = false) (le : LightEffects) :
    le.updateAccentFromGamepad gp =
      { le with sAccent := LightEffects.hueToRGB (stickHue gp.axisX) } := by
  rw [LightEffects.updateAccentFromGamepad, hconnected, hpushed]
  rfl

/-- Outside the deadzone. -/
def Pushed (x : ℤ) : Prop :=
  ¬ (x > -kStickCenterDeadzone ∧ x < kStickCenterDeadzone)

theorem pushed_iff {gp : GamepadState} :
    Pushed gp.axisX ↔ LightEffects.stickCentered gp = false := by
  simp [Pushed, LightEffects.stickCentered]

/-- What a connected tick writes: both strip dims, and outside the deadzone the accent. -/
structure MapsInputs : Prop where
  dims : ∀ (gp : GamepadState) (h : Head), Sketch.dimStrips gp h =
    { h with
      led := (h.led.setStripDim 0 (triggerDim gp.brake)).setStripDim 1 (triggerDim gp.throttle) }
  accent : ∀ (gp : GamepadState) (le : LightEffects), gp.connected = true → Pushed gp.axisX →
    le.updateAccentFromGamepad gp =
      { le with sAccent := LightEffects.hueToRGB (stickHue gp.axisX) }

theorem mapsInputs : MapsInputs where
  dims := dimStrips_eq
  accent _ le hconnected hpushed := updateAccentFromGamepad_eq hconnected (pushed_iff.mp hpushed) le

/-! ## In numbers -/

theorem triggerDim_toNat (v : ℤ) :
    ((triggerDim v).toNat : ℤ) = Arduino.map v 0 1023 255 0 % 256 := by
  rw [triggerDim, UInt8.ofInt, UInt8.toNat_ofNat']
  omega

theorem stickHue_toNat (x : ℤ) :
    ((stickHue x).toNat : ℤ) = Arduino.map x (-511) 512 0 359 % 65536 := by
  rw [stickHue, UInt16.ofInt, UInt16.toNat_ofNat']
  omega

theorem triggerMap_of_nonneg {v : ℤ} (h : 0 ≤ v) :
    Arduino.map v 0 1023 255 0 = 255 - 255 * v / 1023 := by
  rw [Arduino.map_of_nonpos (by omega)]
  omega

theorem triggerMap_of_nonpos {v : ℤ} (h : v ≤ 0) :
    Arduino.map v 0 1023 255 0 = 255 + 255 * -v / 1023 := by
  rw [Arduino.map_of_nonneg (by omega)]
  omega

theorem stickMap_of_nonneg {x : ℤ} (h : -511 ≤ x) :
    Arduino.map x (-511) 512 0 359 = 359 * (x + 511) / 1023 := by
  rw [Arduino.map_of_nonneg (by omega)]
  omega

theorem stickMap_of_nonpos {x : ℤ} (h : x ≤ -511) :
    Arduino.map x (-511) 512 0 359 = -(359 * (-511 - x) / 1023) := by
  rw [Arduino.map_of_nonpos (by omega)]
  omega

/-! ## Beyond the ends -/

/-- An overshoot of a range 1023 wide, mapped onto `span` steps and narrowed modulo `turn`, is
worth less than one step, up to whole turns. -/
def Absorbed (span turn overshoot : ℤ) : Prop := span * overshoot % (turn * 1023) < 1023

theorem absorbed_iff {span turn overshoot : ℤ} (hturn : 0 < turn) :
    Absorbed span turn overshoot ↔ span * overshoot / 1023 % turn = 0 := by
  unfold Absorbed
  generalize span * overshoot = n
  have hquot : n / (turn * 1023) = n / 1023 / turn := by
    rw [mul_comm, Int.ediv_ediv_of_nonneg (by decide)]
  have hsteps := Int.mul_ediv_add_emod (n / 1023) turn
  have hturns := Int.mul_ediv_add_emod n (turn * 1023)
  rw [hquot, mul_right_comm] at hturns
  have hnonneg := Int.emod_nonneg (n / 1023) hturn.ne'
  -- modulo a whole turn, what is left is a part of a step and the steps of this turn
  generalize turn * (n / 1023 / turn) = whole at hsteps hturns
  omega

/-- An overshoot worth less than one step outright. -/
theorem absorbed_of_lt {span turn overshoot : ℤ} (hnonneg : 0 ≤ span * overshoot)
    (hlt : span * overshoot < 1023) (hturn : 1 ≤ turn) : Absorbed span turn overshoot := by
  rw [Absorbed, Int.emod_eq_of_lt hnonneg (by omega)]
  exact hlt

theorem triggerDim_below_iff {v : ℤ} (h : v < 0) : triggerDim v = 255 ↔ Absorbed 255 256 (-v) := by
  have hfull : (255 : UInt8).toNat = 255 := rfl
  have hdim := triggerDim_toNat v
  rw [triggerMap_of_nonpos h.le] at hdim
  rw [← UInt8.toNat_inj, hfull, absorbed_iff (by decide)]
  omega

theorem triggerDim_above_iff {v : ℤ} (h : 1023 < v) :
    triggerDim v = 0 ↔ Absorbed 255 256 (v - 1023) := by
  have hdark : (0 : UInt8).toNat = 0 := rfl
  have hdim := triggerDim_toNat v
  have hend : 255 * v / 1023 = 255 + 255 * (v - 1023) / 1023 := by omega
  rw [triggerMap_of_nonneg (by omega), hend] at hdim
  rw [← UInt8.toNat_inj, hdark, absorbed_iff (by decide)]
  omega

theorem stickHue_below_iff {x : ℤ} (h : x < -511) :
    stickHue x = 0 ↔ Absorbed 359 65536 (-511 - x) := by
  have hleft : (0 : UInt16).toNat = 0 := rfl
  have hhue := stickHue_toNat x
  rw [stickMap_of_nonpos h.le] at hhue
  rw [← UInt16.toNat_inj, hleft, absorbed_iff (by decide)]
  omega

theorem stickHue_above_iff {x : ℤ} (h : 512 < x) :
    stickHue x = 359 ↔ Absorbed 359 65536 (x - 512) := by
  have hright : (359 : UInt16).toNat = 359 := rfl
  have hhue := stickHue_toNat x
  have hend : 359 * (x + 511) / 1023 = 359 + 359 * (x - 512) / 1023 := by omega
  rw [stickMap_of_nonneg (by omega), hend] at hhue
  rw [← UInt16.toNat_inj, hright, absorbed_iff (by decide)]
  omega

/-! ## Within the ends -/

theorem triggerDim_anti {v w : ℤ} (hv : 0 ≤ v) (h : v ≤ w) (hw : w ≤ 1023) :
    triggerDim w ≤ triggerDim v := by
  have hfalls : ∀ {x y : ℤ}, x ≤ y →
      Arduino.map y 0 1023 255 0 ≤ Arduino.map x 0 1023 255 0 :=
    fun h => Arduino.map_anti (by decide) (by decide) h
  have hfull : Arduino.map v 0 1023 255 0 ≤ 255 := hfalls hv
  have hdark : 0 ≤ Arduino.map w 0 1023 255 0 := hfalls hw
  have hstep := hfalls h
  -- between the ends the cast has nothing to cut off
  rw [UInt8.le_iff_toNat_le, ← Int.ofNat_le, triggerDim_toNat, triggerDim_toNat,
    Int.emod_eq_of_lt hdark (by omega), Int.emod_eq_of_lt (by omega) (by omega)]
  exact hstep

theorem stickHue_mono {x y : ℤ} (hx : -511 ≤ x) (h : x ≤ y) (hy : y ≤ 512) :
    stickHue x ≤ stickHue y ∧ stickHue y ≤ 359 := by
  have hrises : ∀ {x y : ℤ}, x ≤ y →
      Arduino.map x (-511) 512 0 359 ≤ Arduino.map y (-511) 512 0 359 :=
    fun h => Arduino.map_mono (by decide) (by decide) h
  have hred : 0 ≤ Arduino.map x (-511) 512 0 359 := hrises hx
  have hlast : Arduino.map y (-511) 512 0 359 ≤ 359 := hrises hy
  have hstep := hrises h
  have hhue : ((stickHue y).toNat : ℤ) = Arduino.map y (-511) 512 0 359 := by
    rw [stickHue_toNat, Int.emod_eq_of_lt (by omega) (by omega)]
  constructor
  · rw [UInt16.le_iff_toNat_le, ← Int.ofNat_le, hhue, stickHue_toNat,
      Int.emod_eq_of_lt hred (by omega)]
    exact hstep
  · rw [UInt16.le_iff_toNat_le, ← Int.ofNat_le, hhue]
    exact hlast

/-- The nearest value from `lo` to `hi`. -/
def clampTo (lo hi v : ℤ) : ℤ := max lo (min v hi)

theorem clampTo_mono (lo hi : ℤ) {v w : ℤ} (h : v ≤ w) : clampTo lo hi v ≤ clampTo lo hi w :=
  max_le_max_left lo (min_le_min_right hi h)

theorem clampTo_mem {lo hi : ℤ} (h : lo ≤ hi) (v : ℤ) :
    lo ≤ clampTo lo hi v ∧ clampTo lo hi v ≤ hi :=
  ⟨le_max_left _ _, max_le h (min_le_right _ _)⟩

/-! ## What a pad can deliver -/

/-- The trigger and stick values that reach the head, the ends of the documented stick range
among them. -/
structure PadValues where
  triggers : Set ℤ
  axes : Set ℤ
  leftmost : -511 ∈ axes
  rightmost : 512 ∈ axes

namespace PadValues

/-- Analog inputs saturate. -/
structure Saturates (p : PadValues) : Prop where
  dim_falls : ∀ v ∈ p.triggers, ∀ w ∈ p.triggers, v ≤ w → triggerDim w ≤ triggerDim v
  released : ∀ v ∈ p.triggers, v ≤ 0 → triggerDim v = 255
  pulled : ∀ v ∈ p.triggers, 1023 ≤ v → triggerDim v = 0
  hue_rises : ∀ x ∈ p.axes, ∀ y ∈ p.axes, Pushed x → Pushed y → x ≤ y → stickHue x ≤ stickHue y
  hue_le : ∀ x ∈ p.axes, Pushed x → stickHue x ≤ 359

/-- Every overshoot is absorbed: up to whole turns of the cast, triggers stay in -4..1027 and
sticks in -513..514. -/
structure InMargin (p : PadValues) : Prop where
  below_trigger : ∀ v ∈ p.triggers, v < 0 → Absorbed 255 256 (-v)
  above_trigger : ∀ v ∈ p.triggers, 1023 < v → Absorbed 255 256 (v - 1023)
  below_axis : ∀ x ∈ p.axes, x < -511 → Absorbed 359 65536 (-511 - x)
  above_axis : ∀ x ∈ p.axes, 512 < x → Absorbed 359 65536 (x - 512)

/-- In the margin a trigger dims like the nearest documented value. -/
theorem InMargin.triggerDim_eq {p : PadValues} (h : p.InMargin) {v : ℤ} (hv : v ∈ p.triggers) :
    triggerDim v = triggerDim (clampTo 0 1023 v) := by
  by_cases hbelow : v < 0
  · have hclamp : clampTo 0 1023 v = 0 := max_eq_left (by omega)
    rw [hclamp, (triggerDim_below_iff hbelow).mpr (h.below_trigger v hv hbelow)]
    rfl
  · by_cases habove : 1023 < v
    · have hclamp : clampTo 0 1023 v = 1023 := by
        unfold clampTo
        omega
      rw [hclamp, (triggerDim_above_iff habove).mpr (h.above_trigger v hv habove)]
      rfl
    · have hclamp : clampTo 0 1023 v = v := by
        unfold clampTo
        omega
      rw [hclamp]

/-- And a stick picks the hue of the nearest documented value. -/
theorem InMargin.stickHue_eq {p : PadValues} (h : p.InMargin) {x : ℤ} (hx : x ∈ p.axes) :
    stickHue x = stickHue (clampTo (-511) 512 x) := by
  by_cases hbelow : x < -511
  · have hclamp : clampTo (-511) 512 x = -511 := max_eq_left (by omega)
    rw [hclamp, (stickHue_below_iff hbelow).mpr (h.below_axis x hx hbelow)]
    rfl
  · by_cases habove : 512 < x
    · have hclamp : clampTo (-511) 512 x = 512 := by
        unfold clampTo
        omega
      rw [hclamp, (stickHue_above_iff habove).mpr (h.above_axis x hx habove)]
      rfl
    · have hclamp : clampTo (-511) 512 x = x := by
        unfold clampTo
        omega
      rw [hclamp]

theorem InMargin.saturates {p : PadValues} (h : p.InMargin) : p.Saturates where
  dim_falls v hv w hw hle := by
    rw [h.triggerDim_eq hv, h.triggerDim_eq hw]
    exact triggerDim_anti (clampTo_mem (by decide) v).1 (clampTo_mono 0 1023 hle)
      (clampTo_mem (by decide) w).2
  released v hv hle := by
    have hclamp : clampTo 0 1023 v = 0 := max_eq_left (by omega)
    rw [h.triggerDim_eq hv, hclamp]
    rfl
  pulled v hv hle := by
    have hclamp : clampTo 0 1023 v = 1023 := by
      unfold clampTo
      omega
    rw [h.triggerDim_eq hv, hclamp]
    rfl
  hue_rises x hx y hy _ _ hle := by
    rw [h.stickHue_eq hx, h.stickHue_eq hy]
    exact (stickHue_mono (clampTo_mem (by decide) x).1 (clampTo_mono (-511) 512 hle)
      (clampTo_mem (by decide) y).2).1
  hue_le x hx _ := by
    obtain ⟨hlow, hhigh⟩ := clampTo_mem (by decide : (-511 : ℤ) ≤ 512) x
    rw [h.stickHue_eq hx]
    exact (stickHue_mono hlow (Int.le_refl _) hhigh).2

/-- Whatever a pad can deliver: what the head writes for it saturates if and only if every
overshoot is absorbed. -/
theorem saturates_iff (p : PadValues) : MapsInputs ∧ (p.Saturates ↔ p.InMargin) := by
  refine ⟨mapsInputs, fun h => ?_, InMargin.saturates⟩
  have hleft : stickHue (-511) = 0 := rfl
  have hright : stickHue 512 = 359 := rfl
  have hpushed : ∀ x : ℤ, x ≤ -511 ∨ 512 ≤ x → Pushed x := by
    intro x hout
    unfold Pushed kStickCenterDeadzone
    omega
  refine ⟨fun v hv hbelow => ?_, fun v hv habove => ?_, fun x hx hbelow => ?_,
    fun x hx habove => ?_⟩
  · exact (triggerDim_below_iff hbelow).mp (h.released v hv hbelow.le)
  · exact (triggerDim_above_iff habove).mp (h.pulled v hv habove.le)
  · -- below the left end the hue can only be the one of the end
    have hle := h.hue_rises x hx (-511) p.leftmost (hpushed x (.inl hbelow.le))
      (hpushed _ (.inl (Int.le_refl _))) hbelow.le
    rw [hleft] at hle
    exact (stickHue_below_iff hbelow).mp (UInt16.le_antisymm hle (UInt16.zero_le))
  · have hpx := hpushed x (.inr habove.le)
    have hle := h.hue_rises 512 p.rightmost x hx (hpushed _ (.inr (Int.le_refl _))) hpx habove.le
    rw [hright] at hle
    exact (stickHue_above_iff habove).mp (UInt16.le_antisymm (h.hue_le x hx hpx) hle)

/-- A pad a few counts beyond the documented ranges still saturates. -/
theorem saturates_of_near {p : PadValues} (htriggers : ∀ v ∈ p.triggers, -4 ≤ v ∧ v ≤ 1027)
    (haxes : ∀ x ∈ p.axes, -513 ≤ x ∧ x ≤ 514) : p.Saturates := by
  refine InMargin.saturates ⟨fun v hv h => ?_, fun v hv h => ?_, fun x hx h => ?_,
    fun x hx h => ?_⟩
  · have hnear := (htriggers v hv).1
    exact absorbed_of_lt (by omega) (by omega) (by decide)
  · have hnear := (htriggers v hv).2
    exact absorbed_of_lt (by omega) (by omega) (by decide)
  · have hnear := (haxes x hx).1
    exact absorbed_of_lt (by omega) (by omega) (by decide)
  · have hnear := (haxes x hx).2
    exact absorbed_of_lt (by omega) (by omega) (by decide)

/-! ## The Wii pads -/

/-- A uDraw tablet report with the pressure bytes `low` and `high`. -/
def tabletReport (low high : UInt8) : List UInt8 :=
  [0x32, 0, 0, 0xff, 0xff, 0xff, low, 0, high, 0, 0]

/-- A Wii U Pro report with the left stick at `low` and `high`, and nothing pressed. -/
def uProReport (low high : UInt8) : List UInt8 :=
  [0x34, 0, 0, low, high, 0, 8, 0, 8, 0, 8, 0xff, 0xff, 0xff]

/-- The uDraw tablet's throttle and the Wii U Pro controller's left stick. -/
def wiiPads : PadValues where
  triggers := Set.range fun report => (Wii.processDrmKe report).throttle
  axes := Set.range fun report => (Wii.processDrmKee report).axisX
  leftmost := ⟨uProReport 0x02 0x03, by decide⟩
  rightmost := ⟨uProReport 0x00 0x0d, by decide⟩

/-- With no pressure on the tablet its side goes almost dark, and a stick pushed all the way to
the right leaves the colour circle. -/
theorem wiiPads_wrap :
    (Wii.processDrmKe (tabletReport 0 0)).throttle = -21 ∧ triggerDim (-21) = 4 ∧
      (Wii.processDrmKee (uProReport 0xff 0x0f)).axisX = 818 ∧ stickHue 818 = 466 ∧
      ¬ wiiPads.Saturates := by
  refine ⟨by decide, by decide, by decide, by decide, fun h => ?_⟩
  have hfull := h.released (-21) ⟨tabletReport 0 0, by decide⟩ (by decide)
  exact absurd hfull (by decide)

end PadValues

end K2soHead
